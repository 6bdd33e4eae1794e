import TurtleFleet.Proofs.Atomicity

/-! Transfers between two slots of a turtle, whatever stacks the slots hold. The items are taken out
first, then put into the other slot, and what is left of them goes back. Kind by kind, a slot gains as
many items as it is given and has room for; the main statement follows the items through all three
steps, and says which of them are nowhere in the end. -/

namespace TurtleFleet

namespace Inventory

/-! ### One slot -/

theorem room_of_getElem? {inventory after : Inventory} {slot : Nat}
    (same : after.slots[slot]? = inventory.slots[slot]?) (item : String) :
    after.room slot item = inventory.room slot item := by
  rw [room, same, room]

/-- A slot that holds nothing of another kind has room up to the stack limit. -/
theorem room_eq {inventory : Inventory} {slot : Nat} (there : slot < inventory.size) {item : String}
    (kind : ∀ stack, inventory.get? slot = some stack → stack.id = item) :
    inventory.room slot item = stackLimit - countOf item (inventory.get? slot) := by
  obtain ⟨content, slotted⟩ : ∃ content, inventory.slots[slot]? = some content :=
    ⟨_, List.getElem?_eq_getElem there⟩
  rw [get?, slotted, Option.join_some] at kind ⊢
  rw [room, slotted]
  rcases content with _ | held
  · rfl
  · have same := kind held rfl
    simp [countOf, same]

/-- A slot gains as many items of a kind as it is given and has room for. -/
theorem countOf_insertInto (inventory : Inventory) (slot : Nat) (stack : ItemStack) (item : String) :
    countOf item ((inventory.insertInto slot stack).2.get? slot) =
      countOf item (inventory.get? slot) +
        min (countOf item (some stack)) (inventory.room slot item) := by
  unfold insertInto room
  rcases there : inventory.slots[slot]? with _ | _ | held
  · simp
  · have bound : slot < inventory.size := (List.getElem?_eq_some_iff.mp there).1
    have empty : inventory.get? slot = none := by rw [get?, there]; rfl
    simp only [get?_put_self bound, empty, countOf]
    split <;> simp
  · have bound : slot < inventory.size := (List.getElem?_eq_some_iff.mp there).1
    have full := get?_eq_some_iff.mpr there
    by_cases same : held.id = stack.id
    · simp only [same, ↓reduceIte, get?_put_self bound, full, countOf]
      split <;> simp
    · by_cases own : held.id = item
      · have other : ¬ stack.id = item := fun equal => same (own.trans equal.symm)
        simp [same, countOf, other]
      · simp [same, own]

theorem countOf_insertInto_rest (inventory : Inventory) (slot : Nat) (stack : ItemStack)
    (item : String) :
    countOf item (inventory.insertInto slot stack).1 =
      countOf item (some stack) - inventory.room slot item := by
  have less (placed : Nat) : countOf item (stack.less placed) =
      if stack.id = item then stack.count - placed else 0 := by
    unfold ItemStack.less countOf
    split <;> grind
  unfold insertInto room
  rcases inventory.slots[slot]? with _ | _ | held
  · simp
  · rw [less]
    simp only [countOf]
    split <;> omega
  · by_cases same : held.id = stack.id
    · simp only [same, ↓reduceIte]
      rw [less]
      simp only [countOf]
      split <;> omega
    · by_cases own : held.id = item
      · have other : ¬ stack.id = item := fun equal => same (own.trans equal.symm)
        simp [same, countOf, other]
      · simp [same, own]

/-! ### The three steps -/

/-- What it means for the slots, kind by kind, that some items are taken out of one of them. -/
structure Spares (before after : Inventory) (source count : Nat) (taken : ItemStack) : Prop where
  there : source < after.size
  offered : ∀ item, countOf item (some taken) = min count (countOf item (before.get? source))
  kept : ∀ item, countOf item (after.get? source) + countOf item (some taken) =
    countOf item (before.get? source)
  kind : ∀ stack, after.get? source = some stack → stack.id = taken.id
  others : ∀ other, other ≠ source → after.slots[other]? = before.slots[other]?
  total : ∀ item, after.total item + countOf item (some taken) = before.total item

theorem spares_take {inventory spared : Inventory} {source count : Nat} {taken : ItemStack}
    (took : inventory.take source count = (some taken, spared)) :
    inventory.Spares spared source count taken := by
  obtain ⟨stack, held, more, counted, shape, left⟩ := take_eq_some took
  have there := lt_size_of_get? held
  have kept : spared.get? source = stack.less taken.count := by rw [left, get?_put_self there]
  refine ⟨?_, fun item => ?_, fun item => ?_, fun rest held => ?_, fun other away => ?_,
    total_take took⟩
  · rwa [left, size_put]
  · rw [shape, held]
    simp only [countOf]
    split <;> omega
  · have parts := countOf_less stack taken.count (by omega) item
    rwa [← shape, ← kept, ← held] at parts
  · rw [kept, ItemStack.less] at held
    split at held
    · cases held
      rw [shape]
    · cases held
  · rw [left, put, List.getElem?_set_ne (Ne.symm away)]

/-- Puts what is left of a stack back into a slot. -/
def restore (inventory : Inventory) (source : Nat) : Option ItemStack → Inventory
  | none => inventory
  | some rest => (inventory.insertInto source rest).2

section

variable {inventory : Inventory} {source : Nat} {rest : Option ItemStack}

theorem countOf_restore (item : String) :
    countOf item ((inventory.restore source rest).get? source) =
      countOf item (inventory.get? source) + min (countOf item rest) (inventory.room source item) := by
  cases rest with
  | none => simp [restore, countOf]
  | some rest => exact countOf_insertInto ..

theorem total_restore (item : String) :
    (inventory.restore source rest).total item + (countOf item rest - inventory.room source item) =
      inventory.total item + countOf item rest := by
  cases rest with
  | none => simp [restore, countOf]
  | some rest =>
    rw [← countOf_insertInto_rest]
    exact total_insertInto rfl item

theorem get?_restore_of_ne {other : Nat} (apart : other ≠ source) :
    (inventory.restore source rest).get? other = inventory.get? other := by
  cases rest with
  | none => rfl
  | some rest => exact get?_insertInto_of_ne rfl apart

end

/-! ### The account of a transfer -/

/-- How many items of a kind a transfer moves from one slot into another one: as many as are wanted,
as are there and as find room. -/
def movable (inventory : Inventory) (source slot count : Nat) (item : String) : Nat :=
  min (min count (countOf item (inventory.get? source))) (inventory.room slot item)

/-- How many items of a kind a transfer spills. What was taken out and found no room goes back beside
what stayed behind, but only up to the stack limit. -/
def spilt (inventory : Inventory) (source slot count : Nat) (item : String) : Nat :=
  let present := countOf item (inventory.get? source)
  let taken := min count present
  taken - inventory.movable source slot count item - (stackLimit - (present - taken))

/-- Nothing is spilt exactly if all that is wanted finds room, or else what is to be left in the slot
keeps the stack limit. -/
theorem spilt_eq_zero_iff (inventory : Inventory) (source slot count : Nat) (item : String) :
    inventory.spilt source slot count item = 0 ↔
      inventory.movable source slot count item = min count (countOf item (inventory.get? source)) ∨
        countOf item (inventory.get? source) ≤
          inventory.movable source slot count item + stackLimit := by
  simp only [spilt, movable]
  omega

namespace Spares

variable {inventory spared filled : Inventory} {slot source count : Nat} {taken : ItemStack}
  {rest : Option ItemStack} (spares : inventory.Spares spared source count taken)

include spares

theorem get?_of_ne {other : Nat} (away : other ≠ source) :
    spared.get? other = inventory.get? other := by
  rw [get?, spares.others other away, get?]

theorem stayed (item : String) : countOf item (spared.get? source) =
    countOf item (inventory.get? source) - min count (countOf item (inventory.get? source)) := by
  rw [← spares.offered, ← spares.kept item, Nat.add_sub_cancel]

/-- What found no room is what was taken out and did not move. -/
theorem returned (apart : slot ≠ source) (put : spared.insertInto slot taken = (rest, filled))
    (item : String) : countOf item rest =
      min count (countOf item (inventory.get? source)) -
        inventory.movable source slot count item := by
  have unfit := countOf_insertInto_rest spared slot taken item
  rw [put, room_of_getElem? (spares.others slot apart), spares.offered] at unfit
  dsimp only at unfit
  rw [unfit, movable]
  omega

/-- What goes back finds room beside what stayed behind, which is of the same kind. -/
theorem back (apart : slot ≠ source) (put : spared.insertInto slot taken = (rest, filled))
    (kind : ∀ stack, rest = some stack → stack.id = taken.id) (item : String) :
    min (countOf item rest) (filled.room source item) =
      min (countOf item rest) (stackLimit - countOf item (spared.get? source)) := by
  have wide : source < filled.size := by
    have sizes := size_insertInto spared slot taken
    rw [put] at sizes
    exact Nat.lt_of_lt_of_eq spares.there sizes.symm
  have stays : filled.get? source = spared.get? source := get?_insertInto_of_ne put (Ne.symm apart)
  by_cases same : item = taken.id
  · have behind (stack : ItemStack) (held : filled.get? source = some stack) : stack.id = item := by
      rw [stays] at held
      rw [spares.kind stack held, same]
    rw [room_eq wide behind, stays]
  · have nothing : countOf item rest = 0 := by
      rcases rest with _ | rest
      · rfl
      · exact if_neg fun equal => same (equal.symm.trans (kind rest rfl))
    simp [nothing]

theorem spilling (apart : slot ≠ source) (put : spared.insertInto slot taken = (rest, filled))
    (kind : ∀ stack, rest = some stack → stack.id = taken.id) (item : String) :
    countOf item rest - filled.room source item = inventory.spilt source slot count item := by
  have same := spares.back apart put kind item
  rw [spares.stayed, spares.returned apart put] at same
  rw [spilt, spares.returned apart put]
  omega

end Spares

/-- What becomes of the slots if so many items of every kind move from one of them into another one
while others are spilt. -/
structure Transfers (before after : Inventory) (source slot : Nat) (moved spilt : String → Nat) :
    Prop where
  gained : ∀ item, countOf item (after.get? slot) = countOf item (before.get? slot) + moved item
  lost : ∀ item,
    countOf item (after.get? source) + moved item + spilt item = countOf item (before.get? source)
  others : ∀ other, other ≠ slot → other ≠ source → after.get? other = before.get? other
  total : ∀ item, after.total item + spilt item = before.total item

theorem transfers_of_nothing {inventory : Inventory} {source : Nat}
    (nothing : ∀ item, countOf item (inventory.get? source) = 0) (slot count : Nat) :
    inventory.Transfers inventory source slot (inventory.movable source slot count)
      (inventory.spilt source slot count) := by
  constructor <;> simp [movable, spilt, nothing]

theorem countOf_of_take_eq_none {inventory spared : Inventory} {source count : Nat}
    (took : inventory.take source count = (none, spared)) (wanted : 0 < count) (item : String) :
    countOf item (inventory.get? source) = 0 := by
  unfold take at took
  rcases held : inventory.get? source with _ | stack
  · rfl
  · simp only [held] at took
    split at took
    · have none : stack.count = 0 := by omega
      simp [countOf, none]
    · cases took

namespace Moves

variable {inventory spared after : Inventory} {slot source count moved : Nat} {taken : ItemStack}

/-- All that does not stay in the other slot is put back. -/
theorem restored (moves : spared.Moves slot source taken moved after) (more : 1 ≤ taken.count) :
    ∃ rest filled, spared.insertInto slot taken = (rest, filled) ∧
      after = filled.restore source rest ∧ (∀ stack, rest = Option.some stack → stack.id = taken.id) ∧
      moved = taken.count - countOf taken.id rest := by
  cases moves with
  | all put => exact ⟨none, _, put, rfl, nofun, rfl⟩
  | @some filled rest put =>
    have kind := congrArg ItemStack.id (insertInto_rest more put).1
    refine ⟨Option.some rest, filled, put, rfl, ?_, ?_⟩
    · rintro stack same
      cases same
      exact kind
    · rw [countOf, if_pos kind]

theorem transfers (moves : spared.Moves slot source taken moved after)
    (took : inventory.take source count = (Option.some taken, spared)) (apart : slot ≠ source) :
    inventory.Transfers after source slot (inventory.movable source slot count)
        (inventory.spilt source slot count) ∧
      moved = inventory.movable source slot count taken.id := by
  have spares := spares_take took
  obtain ⟨_, _, more, _⟩ := take_eq_some took
  obtain ⟨rest, filled, put, left, kind, counted⟩ := moves.restored more
  have sameRoom := room_of_getElem? (spares.others slot apart)
  have gained := countOf_insertInto spared slot taken
  rw [put] at gained
  have stays {other : Nat} (away : other ≠ slot) : filled.get? other = spared.get? other :=
    get?_insertInto_of_ne put away
  have most (item : String) : inventory.movable source slot count item ≤
      min count (countOf item (inventory.get? source)) := Nat.min_le_left ..
  rw [left]
  refine ⟨⟨fun item => ?gained, fun item => ?lost, fun other away elsewhere => ?others,
    fun item => ?total⟩, ?moved⟩
  case gained =>
    rw [get?_restore_of_ne apart, gained, spares.get?_of_ne apart, sameRoom, spares.offered, movable]
  case lost =>
    have least := most item
    rw [countOf_restore, spares.back apart put kind, stays (Ne.symm apart), spares.stayed,
      spares.returned apart put, spilt]
    omega
  case others => rw [get?_restore_of_ne elsewhere, stays away, spares.get?_of_ne elsewhere]
  case total =>
    rw [← spares.spilling apart put kind, total_restore, total_insertInto put, spares.total]
  case moved =>
    have least := most taken.id
    have own : countOf taken.id (Option.some taken) = taken.count := if_pos rfl
    rw [← spares.offered, own] at least
    rw [counted, spares.returned apart put, ← spares.offered, own]
    omega

/-- If nothing moves and nothing is spilt the inventory is what it was. -/
theorem eq_of_unspilt (moves : spared.Moves slot source taken 0 after)
    (took : inventory.take source count = (Option.some taken, spared)) (apart : slot ≠ source)
    (unspilt : inventory.spilt source slot count taken.id = 0) : after = inventory := by
  obtain ⟨stack, held, more, counted, shape, _⟩ := take_eq_some took
  have still := (moves.transfers took apart).2
  have offered := (spares_take took).offered taken.id
  have kind : stack.id = taken.id := by rw [shape]
  have present : countOf taken.id (inventory.get? source) = stack.count := by
    rw [held, countOf, if_pos kind]
  have own : countOf taken.id (Option.some taken) = taken.count := if_pos rfl
  have fits : stack.count ≤ stackLimit := by
    rw [spilt_eq_zero_iff, ← still, ← offered, own, present] at unspilt
    omega
  refine moves.eq_of_none rfl (fun other same => ?_) took apart
  cases held.symm.trans same
  exact ⟨by omega, fits⟩

end Moves

end Inventory

/-! ### Running a transfer -/

namespace Action

variable {W : Type} {scene : Scene W} {slot count : Nat}

theorem outcome_transferTo_of_none (small : slot < slotCount)
    (apart : slot ≠ scene.turtle.selectedSlot) (wanted : 0 < count) {inventory : Inventory}
    (took : scene.turtle.inventory.take scene.turtle.selectedSlot count = (none, inventory)) :
    (transferTo slot count).outcome scene = (.ok [], scene) := by
  have read : (turtle : Action W Turtle).outcome scene = (.ok scene.turtle, scene) := rfl
  rw [transferTo, if_pos small, outcome_bind_ok read]
  dsimp only
  rw [if_neg (not_or.mpr ⟨apart, Nat.ne_of_gt wanted⟩), took]
  rfl

theorem outcome_transferTo_of_some (small : slot < slotCount)
    (apart : slot ≠ scene.turtle.selectedSlot) (wanted : 0 < count) {taken : ItemStack}
    {spared : Inventory}
    (took : scene.turtle.inventory.take scene.turtle.selectedSlot count = (some taken, spared)) :
    ∃ moved inventory, spared.Moves slot scene.turtle.selectedSlot taken moved inventory ∧
      (transferTo slot count).outcome scene =
        if moved = 0 then
          (.error (.rejected noSpace), { scene with turtle := { scene.turtle with inventory } })
        else
          ((Turtle.beginning { scene.turtle with inventory } .shortWait).1,
            { scene with
              turtle := (Turtle.beginning { scene.turtle with inventory } .shortWait).2 }) := by
  have read : (turtle : Action W Turtle).outcome scene = (.ok scene.turtle, scene) := rfl
  rw [transferTo, if_pos small, outcome_bind_ok read]
  dsimp only
  rw [if_neg (not_or.mpr ⟨apart, Nat.ne_of_gt wanted⟩), took]
  dsimp only
  have counted (moved : Nat) (inventory : Inventory) :
      (do
        if moved = 0 then reject noSpace
        beginAnimation .shortWait
        return [] : Action W (List Json)).outcome
          { scene with turtle := { scene.turtle with inventory } } =
        if moved = 0 then
          (.error (.rejected noSpace), { scene with turtle := { scene.turtle with inventory } })
        else
          ((Turtle.beginning { scene.turtle with inventory } .shortWait).1,
            { scene with
              turtle := (Turtle.beginning { scene.turtle with inventory } .shortWait).2 }) := by
    by_cases none : moved = 0
    · rw [if_pos none, if_pos none]
      rfl
    · rw [if_neg none, if_neg none]
      exact outcome_beginAnimation .shortWait
  rcases put : spared.insertInto slot taken with ⟨_ | rest, filled⟩
  · exact ⟨_, filled, .all put, counted taken.count filled⟩
  · obtain ⟨_, _, some, _⟩ := Inventory.take_eq_some took
    have few := checkedSub_of_le (Inventory.insertInto_rest some put).2.2
    refine ⟨_, _, .some put, ?_⟩
    rw [← counted]
    dsimp only
    rw [few]
    rfl

/-- What a transfer between two slots comes to for an idle turtle. -/
theorem outcome_transferTo (scene : Scene W) (idle : scene.turtle.animation.playing = false)
    (small : slot < slotCount) (apart : slot ≠ scene.turtle.selectedSlot) (wanted : 0 < count) :
    let before := scene.turtle.inventory
    let source := scene.turtle.selectedSlot
    let present := fun item => Inventory.countOf item (before.get? source)
    let moved := before.movable source slot count
    let spilt := before.spilt source slot count
    ∃ result left, (transferTo slot count).outcome scene = (result, { scene with turtle := left }) ∧
      before.Transfers left.inventory source slot moved spilt ∧
      (∀ item, 0 < present item → moved item = 0 →
        result = .error (.rejected noSpace) ∧ (spilt item = 0 → left = scene.turtle)) ∧
      ((∀ item, 0 < present item → 0 < moved item) → result = .ok []) := by
  intro before source present moved spilt
  rcases took : before.take source count with ⟨_ | taken, spared⟩
  · have nothing := Inventory.countOf_of_take_eq_none took wanted
    exact ⟨.ok [], scene.turtle, outcome_transferTo_of_none small apart wanted took,
      Inventory.transfers_of_nothing nothing slot count,
      fun item there => absurd (nothing item) (Nat.ne_of_gt there), fun _ => rfl⟩
  obtain ⟨arrived, after, moves, ran⟩ := outcome_transferTo_of_some small apart wanted took
  obtain ⟨account, counted⟩ := moves.transfers took apart
  have offered := (Inventory.spares_take took).offered
  -- A slot holds items of one kind only, so what is there is what is taken.
  have only (item : String) (there : 0 < present item) : item = taken.id := by
    refine Decidable.byContradiction fun other => ?_
    have least := offered item
    rw [show Inventory.countOf item (some taken) = 0 from if_neg (Ne.symm other)] at least
    simp only [present] at there
    omega
  have there : 0 < present taken.id := by
    obtain ⟨_, _, more, _⟩ := Inventory.take_eq_some took
    have most := offered taken.id
    rw [show Inventory.countOf taken.id (some taken) = taken.count from if_pos rfl] at most
    simp only [present]
    omega
  by_cases none : arrived = 0
  · subst none
    rw [if_pos rfl] at ran
    refine ⟨_, _, ran, account, fun item some _ => ⟨rfl, fun unspilt => ?_⟩, fun all => ?_⟩
    · rw [only item some] at unspilt
      have same : after = scene.turtle.inventory := moves.eq_of_unspilt took apart unspilt
      rw [same]
    · exact absurd counted (Nat.ne_of_lt (all taken.id there))
  · rw [if_neg none] at ran
    refine ⟨_, _, ran, ?_, fun item some still => ?_, fun _ => ?_⟩
    · rw [Turtle.inventory_beginning]
      exact account
    · rw [only item some] at still
      exact absurd (counted.trans still) none
    · exact Turtle.beginning_of_idle (by exact idle) .shortWait

end Action

namespace Round

variable {M W : Type} [World W] [WorkMonitor M]

/-- A transfer moves exactly what fits. Whatever stacks the slots of an idle turtle hold, the other
slot gains as many items of every kind as are wanted, are in the selected slot and find room, the
selected slot loses them and those that are spilt, and all other slots are as before. Nothing is spilt
as long as all that is wanted finds room, or what is to be left in the selected slot keeps the stack
limit; then no item disappears. If there are items but none of them moves the command is rejected, and
if nothing is spilt either the turtle is what it was. Otherwise the command succeeds. -/
theorem transfers_move_what_fits (round : Round TurtleCommand M W) (id : TurtleId)
    (member : Member TurtleCommand) (entry : QueueEntry TurtleCommand) (nanos : Nat) {slot count : Nat}
    (command : entry.command = .transferTo slot count)
    (idle : member.turtle.animation.playing = false) (small : slot < slotCount)
    (apart : slot ≠ member.turtle.selectedSlot) (wanted : 0 < count) :
    let before := member.turtle.inventory
    let source := member.turtle.selectedSlot
    let present := fun item => Inventory.countOf item (before.get? source)
    let moved := before.movable source slot count
    let spilt := before.spilt source slot count
    ∃ served, (round.execute id member entry nanos).stage.fleet.members.get? id = some served ∧
      before.Transfers served.turtle.inventory source slot moved spilt ∧
      (∀ item, spilt item = 0 ↔
        moved item = min count (present item) ∨ present item ≤ moved item + stackLimit) ∧
      (∀ item, 0 < present item → moved item = 0 →
        round.ending id member entry = .error (.rejected noSpace) ∧
          (spilt item = 0 → served.turtle = member.turtle)) ∧
      ((∀ item, 0 < present item → 0 < moved item) → round.ending id member entry = .ok []) := by
  intro before source present moved spilt
  let scene : Scene W :=
    { turtle := member.turtle, world := round.stage.world,
      otherMovers := round.stage.fleet.moversExcept id }
  obtain ⟨result, left, ran, account, rejected, succeeded⟩ :=
    Action.outcome_transferTo scene idle small apart wanted
  replace ran : (Command.execute entry.command round.stage.fleet.context).outcome scene =
      (result, { scene with turtle := left }) := by
    rw [command]
    exact ran
  have executed : round.execute id member entry nanos = _ := execute_of_ran round member ran nanos
  have ended : round.ending id member entry = result := congrArg Prod.fst ran
  rw [executed, ended]
  exact ⟨_, Keyed.get?_insert_self .., account, before.spilt_eq_zero_iff source slot count, rejected,
    succeeded⟩

/-- A turtle with more stones in its first slot than a stack may have. -/
def hoarder : Member TurtleCommand :=
  { registration := 0
    turtle := Turtle.unplaced { Sample.scout with
      inventory := { slots := [some ⟨"stone", 200⟩, some ⟨"dirt", 3⟩, some ⟨"stone", 24⟩] } }
      Sample.fleet.settings
    queue := {} }

/-- The hoarder in the sample world. -/
def cellar : Round TurtleCommand WorkBudget MemoryWorld :=
  { stage := { Sample.stage with fleet := Sample.fleet.setMember "scout" hoarder }
    report := { time := 1 } }

/-- The cellar after the hoarder moved so many stones into its third slot. -/
def tidied (count : Nat) : Stage TurtleCommand WorkBudget MemoryWorld :=
  (cellar.execute "scout" hoarder { id := 1, command := .transferTo 2 count } 0).stage

theorem transfers_move_what_fits_cellar :
    hoarder.turtle.animation.playing = false ∧ 2 < slotCount ∧ 2 ≠ hoarder.turtle.selectedSlot ∧
      ∃ served, (tidied 40).fleet.members.get? "scout" = some served ∧
        hoarder.turtle.inventory.Transfers served.turtle.inventory 0 2
          (hoarder.turtle.inventory.movable 0 2 40) (hoarder.turtle.inventory.spilt 0 2 40) ∧
        hoarder.turtle.inventory.movable 0 2 40 "stone" = 40 ∧
        hoarder.turtle.inventory.spilt 0 2 40 "stone" = 0 ∧
        served.turtle.inventory.slots =
          [some ⟨"stone", 160⟩, some ⟨"dirt", 3⟩, some ⟨"stone", 64⟩] := by
  obtain ⟨served, found, account, _⟩ := transfers_move_what_fits cellar "scout" hoarder
    { id := 1, command := .transferTo 2 40 } 0 rfl rfl (by decide) (by decide) (by decide)
  have slots : ((tidied 40).fleet.members.get? "scout").map (·.turtle.inventory.slots) =
      some [some ⟨"stone", 160⟩, some ⟨"dirt", 3⟩, some ⟨"stone", 64⟩] := rfl
  rw [tidied, found] at slots
  exact ⟨rfl, by decide, by decide, served, found, account, by decide, by decide, Option.some.inj slots⟩

end Round

namespace Stage

/-- A turtle with more items than a stack may have is to move all of them into another slot. -/
def hoardCourse (other : Option ItemStack) : List (Deed TurtleCommand MemoryWorld) :=
  [.register { Sample.scout with inventory := { slots := [some ⟨"stone", 200⟩, other] } },
    .submit "scout" (.transferTo 1 200), Sample.tick]

/-- Into a free slot as many items move as find room, but the selected slot loses more than them. If
none of them moves the command is rejected, and the selected slot loses items all the same. -/
theorem oversized_stacks_spill_hoardCourse :
    (∃ member, (Sample.stage.run ((hoardCourse none).take 2)).fleet.members.get? "scout" =
        some member ∧
      member.turtle.inventory.slots = [some ⟨"stone", 200⟩, none] ∧
      member.turtle.inventory.movable member.turtle.selectedSlot 1 200 "stone" = 64 ∧
      ∃ served, (Sample.stage.run (hoardCourse none)).fleet.members.get? "scout" = some served ∧
        served.turtle.inventory.slots = [some ⟨"stone", 64⟩, some ⟨"stone", 64⟩] ∧
        served.turtle.inventory.total "stone" + 72 = member.turtle.inventory.total "stone") ∧
      (Sample.stage.run (hoardCourse (some ⟨"dirt", 3⟩))).signals.getLast? =
        some (.published ((Response.failure 1 noSpace).toEvent "scout")) ∧
      ∃ served, (Sample.stage.run (hoardCourse (some ⟨"dirt", 3⟩))).fleet.members.get? "scout" =
          some served ∧
        served.turtle.inventory.slots = [some ⟨"stone", 64⟩, some ⟨"dirt", 3⟩] :=
  ⟨⟨_, rfl, rfl, by decide, _, rfl, rfl, by decide⟩, by rfl, _, rfl, rfl⟩

end Stage

end TurtleFleet
