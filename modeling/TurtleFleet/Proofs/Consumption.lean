import TurtleFleet.Proofs.Protection

/-! Consumption: nothing is made from nothing. Placing and equipping look whether the selected slot holds
a stack, and take an item out of it later on, without looking again. The two agree unless the stack is
one without items. Nothing that a turtle carries out makes such a stack; as long as no turtle is
registered with one, every block and every upgrade that comes into being is made of an item. -/

namespace TurtleFleet

variable {M : Type}

namespace Inventory

/-- No slot holds a stack without items. -/
def Stocked (inventory : Inventory) : Prop :=
  ∀ stack, some stack ∈ inventory.slots → 1 ≤ stack.count

namespace Stocked

variable {inventory : Inventory}

theorem get? (stocked : inventory.Stocked) {slot : Nat} {stack : ItemStack}
    (held : inventory.get? slot = some stack) : 1 ≤ stack.count :=
  stocked stack (List.mem_of_getElem? (get?_eq_some_iff.mp held))

theorem put (stocked : inventory.Stocked) (slot : Nat) {content : Option ItemStack}
    (more : ∀ stack, content = some stack → 1 ≤ stack.count) : (inventory.put slot content).Stocked := by
  intro stack held
  rcases List.mem_or_eq_of_mem_set held with kept | same
  · exact stocked stack kept
  · exact more stack same.symm

theorem take (stocked : inventory.Stocked) (slot count : Nat) :
    (inventory.take slot count).2.Stocked := by
  unfold Inventory.take
  split
  · exact stocked
  · dsimp only
    split
    · exact stocked
    · refine stocked.put slot fun rest less => ?_
      unfold ItemStack.less at less
      split at less
      · cases less
        dsimp only
        omega
      · cases less

theorem insertInto (stocked : inventory.Stocked) (slot : Nat) {stack : ItemStack}
    (some : 1 ≤ stack.count) : (inventory.insertInto slot stack).2.Stocked := by
  rw [insertInto_eq inventory slot some]
  dsimp only
  split
  · exact stocked
  · refine stocked.put slot fun filled same => ?_
    cases same
    dsimp only
    omega

theorem handled {after : Inventory} (stocked : inventory.Stocked)
    (handled : inventory.Handled after) : after.Stocked := by
  induction handled with
  | kept => exact stocked
  | took _ slot count ih => exact ih.take slot count
  | filled _ slot some ih => exact ih.insertInto slot some

end Stocked

end Inventory

/-! ### What is made of items -/

/-- The turtle has one item less of the stack in its selected slot, and otherwise the same items. -/
structure Turtle.Spends (turtle : Turtle) (stack : ItemStack) (left : Turtle) : Prop where
  held : turtle.inventory.get? turtle.selectedSlot = some stack
  some : 1 ≤ stack.count
  spent : left.inventory = turtle.inventory.put turtle.selectedSlot (stack.less 1)

/-- The item of an upgrade that is installed is gone, unless it was on the side before. -/
theorem Turtle.Offers.exchange {turtle : Turtle} {catalog : Catalog} {upgrade : Upgrade}
    {outgoing : Option Upgrade} {spared inventory : Inventory}
    (offers : turtle.Offers catalog (some upgrade) spared)
    (stocked : ∀ stack, turtle.inventory.get? turtle.selectedSlot = some stack → 1 ≤ stack.count)
    (built : catalog.Built) (stowed : spared.Stows turtle.selectedSlot outgoing inventory)
    (other : Equipment.sameUpgrade outgoing (some upgrade) = false) :
    inventory.total upgrade.id + 1 = turtle.inventory.total upgrade.id := by
  have stored : inventory.total upgrade.id = spared.total upgrade.id := by
    cases stowed with
    | nothing => rfl
    | item fits =>
      have apart := of_decide_eq_false other
      have same := Inventory.total_insertFrom fits upgrade.id
      rwa [Inventory.countOf_single, if_neg apart] at same
  cases offers with
  | item held known =>
    have less := Inventory.total_take_one held (stocked _ held) upgrade.id
    rwa [Inventory.countOf_single, if_pos (built.id_eq known).symm, ← stored] at less

namespace TurtleCommand

/-- Every block and every upgrade that a command makes takes an item of its kind. -/
structure Consumes (turtle : Turtle) (memory : MemoryWorld) (command : TurtleCommand)
    (result : Except Stop (List Json)) (left : Turtle) (after : MemoryWorld) : Prop where
  placed : ∀ direction, command = .place direction → result.isOk = true →
    ∃ stack, turtle.Spends stack left ∧
      after.terrain turtle.world (direction.target turtle) = .solid stack.id
  blocks : ∀ world pos, after.terrain world pos ≠ memory.terrain world pos →
    after.terrain world pos ≠ .air →
    ∃ stack, turtle.Spends stack left ∧ after.terrain world pos = .solid stack.id
  upgrades : ∀ side upgrade, left.equipment.get? side = some upgrade →
    turtle.equipment.get? side ≠ some upgrade →
    left.inventory.total upgrade.id + 1 = turtle.inventory.total upgrade.id

namespace Ending

variable {context : Context} {turtle left : Turtle} {memory after : MemoryWorld}
  {command : TurtleCommand} {result : Except Stop (List Json)} {notices : List EquipmentNotice}

/-- Placing fails and leaves the world alone, or writes a block and takes its item. -/
theorem spends {direction : ReachDirection}
    (ending : (place direction).Ending context turtle memory result left after notices)
    (stocked : ∀ stack, turtle.inventory.get? turtle.selectedSlot = some stack → 1 ≤ stack.count) :
    (result.isOk = false ∧ after = memory) ∨
      ∃ stack, turtle.Spends stack left ∧
        memory.Writes after turtle.world (direction.target turtle) (.solid stack.id) := by
  cases ending with
  | refused other stop => exact .inl ⟨rfl, rfl⟩
  | @placed _ stack _ held placeable written =>
    have some := stocked stack held
    have one : min 1 stack.count = 1 := by omega
    refine .inr ⟨stack, ⟨held, some, ?_⟩, MemoryWorld.writes_setBlock written⟩
    rw [Turtle.inventory_beginning, Inventory.take_of_get? held some Nat.one_ne_zero, one]

/-- An upgrade that is new on a side was installed in exchange for its item. -/
theorem exchanges (ending : command.Ending context turtle memory result left after notices)
    (stocked : ∀ stack, turtle.inventory.get? turtle.selectedSlot = some stack → 1 ≤ stack.count)
    (built : context.catalog.Built) {side : Side} {upgrade : Upgrade}
    (installed : left.equipment.get? side = some upgrade)
    (new : turtle.equipment.get? side ≠ some upgrade) :
    left.inventory.total upgrade.id + 1 = turtle.inventory.total upgrade.id := by
  have kept {result : Prop} (same : left.equipment = turtle.equipment) : result :=
    (new (same ▸ installed)).elim
  have relocated {pos : BlockPos} {there : Except Stop Bool} {left : Turtle} {after : MemoryWorld}
      (ended : Action.relocation turtle memory turtle.world pos = (there, left, after)) :
      left.equipment = turtle.equipment := by
    obtain ⟨entity, same⟩ := Action.relocation_turtle ended
    rw [same]
  cases ending with
  | unmoved clear refused => exact kept (relocated refused)
  | broken clear stopped => exact kept (relocated stopped)
  | moved clear arrived =>
    have there := relocated arrived
    exact kept ((Turtle.equipment_beginning ..).trans there)
  | @equipped place incoming spared inventory offered stowed =>
    have mounted := turtle.equipment.get?_set place incoming turtle.id turtle.attached side
    rw [Turtle.equipment_beginning] at installed
    replace mounted := installed.symm.trans mounted
    split at mounted
    · rename_i own
      obtain ⟨rfl, other⟩ := own
      subst mounted
      rw [Turtle.inventory_beginning]
      exact offered.exchange stocked built stowed other
    · exact (new mounted.symm).elim
  | _ => exact kept (by simp)

theorem consumes (ending : command.Ending context turtle memory result left after notices)
    (stocked : ∀ stack, turtle.inventory.get? turtle.selectedSlot = some stack → 1 ≤ stack.count)
    (built : context.catalog.Built) : command.Consumes turtle memory result left after where
  placed direction same done := by
    subst same
    rcases ending.spends stocked with ⟨failed, _⟩ | ⟨stack, spends, writes⟩
    · rw [failed] at done
      cases done
    · exact ⟨stack, spends, by rw [writes.terrain, if_pos ⟨rfl, rfl⟩]⟩
  blocks world pos changed some := by
    obtain ⟨_, _, _, alters⟩ := ending.works.changed world pos changed
    cases command with
    | dig direction wanted => exact (some alters.2).elim
    | place direction =>
      rcases ending.spends stocked with ⟨_, same⟩ | ⟨stack, spends, writes⟩
      · exact (changed (same ▸ rfl)).elim
      · rw [writes.terrain] at changed ⊢
        split at changed
        · rename_i there
          exact ⟨stack, spends, if_pos there⟩
        · exact (changed rfl).elim
    | _ => exact alters.elim
  upgrades _ _ installed new := ending.exchanges stocked built installed new

end Ending

end TurtleCommand

/-! ### Along a course -/

namespace Stage

variable [WorkMonitor M]

theorem built_lastsTicks : LastsTicks fun stage : Stage TurtleCommand M MemoryWorld =>
    stage.fleet.catalog.Built where
  paced _ _ _ built := built
  takeIn {stage} arrivals built := by
    obtain ⟨members, retired, same⟩ := stage.fleet.takeIn_eq arrivals
    show (stage.fleet.takeIn arrivals).catalog.Built
    rw [same]
    exact built
  visit {round} id nanos built := by
    obtain ⟨members, monitor, same⟩ := round.visit_fleet_eq id nanos
    rw [same]
    exact built

theorem built_of_leads {start last : Stage TurtleCommand M MemoryWorld}
    {course : List (Deed TurtleCommand MemoryWorld)} (built : start.fleet.catalog.Built)
    (led : start.Leads course last) : last.fleet.catalog.Built := by
  induction led with
  | rest stage => exact built
  | @step stage last deed deeds whole led ih =>
    apply ih
    rw [(stage.fleet_next deed whole).2.1]
    exact built

theorem careersKeep_stocked (settings : Settings) :
    CareersKeep M settings fun turtle => turtle.inventory.Stocked := by
  intro stage turtle left tasks settled stocked career
  cases career with
  | rested equipment animation attached => exact stocked
  | worked fit idle same ending => exact stocked.handled ending.handled

/-- Nothing is made from nothing. If the selected slot does not hold a stack without items, a turtle
that places a block takes exactly one item of its kind out of the slot. The same goes for whatever block
comes into being by a command; and for every upgrade that a side did not hold before, there is exactly
one item of its kind less. No turtle comes to hold a stack without items along a course on which none
is registered with one, so all this holds of every command that is carried out there. -/
theorem nothing_comes_from_nothing :
    (∀ (round : Round TurtleCommand M MemoryWorld) (id : TurtleId) (member : Member TurtleCommand)
        (entry : QueueEntry TurtleCommand) (nanos : Nat), round.stage.fleet.catalog.Built →
      (∀ stack, member.turtle.inventory.get? member.turtle.selectedSlot = some stack →
        1 ≤ stack.count) →
      ∃ served, (round.execute id member entry nanos).stage.fleet.members.get? id = some served ∧
        entry.command.Consumes member.turtle round.stage.world (round.ending id member entry)
          served.turtle (round.execute id member entry nanos).stage.world) ∧
    ∀ (start last : Stage TurtleCommand M MemoryWorld) (course : List (Deed TurtleCommand MemoryWorld)),
      start.Opening → start.fleet.catalog.Built → start.Leads course last →
      (∀ spec, .register spec ∈ course → spec.inventory.Stocked) →
      (∀ id turtle, last.fleet.turtle? id = some turtle → turtle.inventory.Stocked) ∧
      ∀ (arrivals : TurtleId → List (Submitter × TurtleCommand)) (nanos : TurtleId → Nat)
        (id : TurtleId) (entry : QueueEntry TurtleCommand) (result : Except Stop (List Json)),
        let round := Operation.reached arrivals nanos last id
        round.task? id = some (entry, result) →
        ∃ member served, round.stage.fleet.members.get? id = some member ∧
          (round.visit id (nanos id)).stage.fleet.members.get? id = some served ∧
          entry.command.Consumes (member.woken id round.stage.fleet.time).turtle round.stage.world result
            served.turtle (round.visit id (nanos id)).stage.world := by
  refine ⟨fun round id member entry nanos built stocked => ?_,
    fun start last course opening built led registered => ?_⟩
  · obtain ⟨served, notices, found, ending, _⟩ := round.execute_ends id member entry nanos
    exact ⟨served, found, ending.consumes stocked built⟩
  · have upholds : last.Upholds start.fleet.settings fun turtle => turtle.inventory.Stocked :=
      (Upholds.of_opening opening).of_leads (careersKeep_stocked _) (.of_leads opening (.rest start))
        led fun spec entity listed => registered spec listed
    refine ⟨fun id turtle found => ?_, fun arrivals nanos id entry result => ?_⟩
    · obtain ⟨member, known, rfl⟩ := Option.map_eq_some_iff.mp found
      exact upholds.turtles known
    · intro round task
      obtain ⟨member, served, notices, found, known, _, ending⟩ :=
        Round.ending_visit task (nanos id)
      have supplied := Operation.lasts_reached arrivals nanos built_lastsTicks
        (built_of_leads built led) id
      have stocked : (member.woken id round.stage.fleet.time).turtle.inventory.Stocked := by
        rw [Member.turtle_woken]
        exact (Operation.lasts_reached arrivals nanos
          (Upholds.lastsTicks (careersKeep_stocked _)) upholds id).turtles found
      exact ⟨member, served, found, known,
        ending.consumes (fun stack held => stocked.get? held) supplied⟩

def bearer (stack : ItemStack) : TurtleSpec :=
  { Sample.scout with inventory := { slots := [some stack] } }

/-- The turtle is to use what is in its slot. -/
def wareCourse (stack : ItemStack) (command : TurtleCommand) :
    List (Deed TurtleCommand MemoryWorld) :=
  [.register (bearer stack), .submit "scout" command]

/-- The round in which the turtle comes to use it. -/
def wareVisit (stack : ItemStack) (command : TurtleCommand) :
    Round TurtleCommand WorkBudget MemoryWorld :=
  Operation.reached (fun _ => []) (fun _ => 0) (Sample.stage.run (wareCourse stack command)) "scout"

def mason : Member TurtleCommand :=
  { registration := 0, queue := {}
    turtle := Turtle.unplaced (bearer ⟨"stone", 2⟩) Sample.fleet.settings }

def masonry : Round TurtleCommand WorkBudget MemoryWorld :=
  { stage := { Sample.stage with fleet := Sample.fleet.setMember "scout" mason }
    report := { time := 1 } }

/-- The masonry after a stone was placed. -/
def walled : Stage TurtleCommand WorkBudget MemoryWorld :=
  (masonry.execute "scout" mason { id := 1, command := .place .front } 0).stage

/-- The round in which a turtle comes to equip the only item that it has. -/
def smithy : Round TurtleCommand WorkBudget MemoryWorld :=
  wareVisit ⟨"diamond_pickaxe", 1⟩ (.equip .left)

theorem nothing_comes_from_nothing_masonry :
    masonry.stage.fleet.catalog.Built ∧
      masonry.ending "scout" mason { id := 1, command := .place .front } = .ok [] ∧
      (∃ served, walled.fleet.members.get? "scout" = some served ∧
        walled.world.terrain "overworld" ⟨0, 64, -1⟩ = .solid "stone" ∧
        served.turtle.inventory.slots = [some ⟨"stone", 1⟩]) ∧
      smithy.task? "scout" = some ({ id := 1, command := .equip .left }, .ok []) ∧
      ∃ served, (smithy.visit "scout" 0).stage.fleet.members.get? "scout" = some served ∧
        served.turtle.equipment.get? .left = some (.tool "diamond_pickaxe") ∧
        served.turtle.inventory.total "diamond_pickaxe" = 0 := by
  obtain ⟨commands, courses⟩ := @nothing_comes_from_nothing WorkBudget inferInstance
  have built : Sample.stage.fleet.catalog.Built := .register (.register .empty _) _
  have two : mason.turtle.inventory.get? mason.turtle.selectedSlot = some ⟨"stone", 2⟩ := rfl
  have placed : masonry.ending "scout" mason { id := 1, command := .place .front } = .ok [] := by rfl
  have stocked : ∀ stack, mason.turtle.inventory.get? mason.turtle.selectedSlot = some stack →
      1 ≤ stack.count := by
    intro stack held
    cases two.symm.trans held
    decide
  obtain ⟨served, found, consumes⟩ :=
    commands masonry "scout" mason { id := 1, command := .place .front } 0 built stocked
  obtain ⟨stack, ⟨held, _, spent⟩, wall⟩ := consumes.placed .front rfl (by rw [placed]; rfl)
  cases two.symm.trans held
  refine ⟨built, placed, ⟨served, found, wall, by rw [spent]; rfl⟩, ?_⟩
  have task : smithy.task? "scout" = some ({ id := 1, command := .equip .left }, .ok []) := by rfl
  have registered : ∀ spec, .register spec ∈ wareCourse ⟨"diamond_pickaxe", 1⟩ (.equip .left) →
      spec.inventory.Stocked := by
    intro spec listed stack held
    have which : spec = bearer ⟨"diamond_pickaxe", 1⟩ := by simpa [wareCourse] using listed
    rw [which] at held
    cases List.mem_singleton.mp held
    exact Nat.le_refl 1
  obtain ⟨_, visits⟩ := courses Sample.stage _ (wareCourse ⟨"diamond_pickaxe", 1⟩ (.equip .left))
    Sample.opening built (leads_run _ _) registered
  obtain ⟨member, fitted, before, after, exchanged⟩ :=
    visits (fun _ => []) (fun _ => 0) "scout" _ _ task
  have bare : (smithy.stage.fleet.members.get? "scout").map (fun member =>
      let turtle := (member.woken "scout" smithy.stage.fleet.time).turtle
      (turtle.inventory.total "diamond_pickaxe", turtle.equipment.get? .left)) = some (1, none) := by
    decide +kernel
  have installed : ((smithy.visit "scout" 0).stage.fleet.members.get? "scout").map
      (·.turtle.equipment.get? .left) = some (some (.tool "diamond_pickaxe")) := by decide +kernel
  unfold smithy wareVisit at bare installed
  rw [before] at bare
  rw [after] at installed
  obtain ⟨one, none⟩ := Prod.mk.inj (Option.some.inj bare)
  have less := exchanged.upgrades .left _ (Option.some.inj installed)
    fun same => nomatch none.symm.trans same
  exact ⟨task, fitted, after, Option.some.inj installed, Nat.succ.inj (less.trans one)⟩

/-- A block and an upgrade that come from stacks without items. -/
theorem empty_stacks_make_something_wareCourse :
    let walled := Sample.stage.run (wareCourse ⟨"stone", 0⟩ (.place .front) ++ [Sample.tick])
    let fitted := Sample.stage.run (wareCourse ⟨"diamond_pickaxe", 0⟩ (.equip .left) ++ [Sample.tick])
    Sample.stage.world.terrain "overworld" ⟨0, 64, -1⟩ = .air ∧
      walled.world.terrain "overworld" ⟨0, 64, -1⟩ = .solid "stone" ∧
      (wareVisit ⟨"stone", 0⟩ (.place .front)).task? "scout" =
        some ({ id := 1, command := .place .front }, .ok []) ∧
      (∃ turtle, walled.fleet.turtle? "scout" = some turtle ∧
        turtle.inventory.slots = [some ⟨"stone", 0⟩]) ∧
      ∃ turtle, fitted.fleet.turtle? "scout" = some turtle ∧
        turtle.equipment.get? .left = some (.tool "diamond_pickaxe") ∧
        turtle.inventory.slots = [some ⟨"diamond_pickaxe", 0⟩] :=
  ⟨by rfl, by rfl, by rfl, ⟨_, rfl, by rfl⟩, _, rfl, by rfl, by rfl⟩

end Stage

end TurtleFleet
