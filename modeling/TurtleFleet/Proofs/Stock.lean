import TurtleFleet.Equipment
import TurtleFleet.Inventory

/-! The stock of an inventory: what taking items out of a slot and putting them into slots does to the
number of items of every kind, and that no slot comes to hold a stack without items or beyond the
stack limit. -/

namespace TurtleFleet

/-- A stack that a slot may hold. -/
structure ItemStack.Sound (stack : ItemStack) : Prop where
  some : 1 ≤ stack.count
  fits : stack.count ≤ stackLimit

instance (stack : ItemStack) : Decidable stack.Sound :=
  decidable_of_iff (1 ≤ stack.count ∧ stack.count ≤ stackLimit)
    ⟨fun both => ⟨both.1, both.2⟩, fun sound => ⟨sound.some, sound.fits⟩⟩

theorem ItemStack.Sound.less {stack left : ItemStack} (sound : stack.Sound) {placed : Nat}
    (rest : stack.less placed = Option.some left) : left.Sound := by
  unfold ItemStack.less at rest
  split at rest
  · cases rest
    have fits := sound.fits
    exact ⟨by dsimp only; omega, by dsimp only; omega⟩
  · cases rest

namespace Inventory

/-- Every occupied slot holds a stack that it may hold. -/
def Sound (inventory : Inventory) : Prop :=
  ∀ slot stack, inventory.get? slot = some stack → stack.Sound

theorem get?_eq_some_iff {inventory : Inventory} {slot : Nat} {stack : ItemStack} :
    inventory.get? slot = some stack ↔ inventory.slots[slot]? = some (some stack) := by
  unfold get?
  rcases inventory.slots[slot]? with _ | _ | _ <;> simp

theorem sound_iff {inventory : Inventory} :
    inventory.Sound ↔ ∀ content ∈ inventory.slots, ∀ stack, content = some stack → stack.Sound := by
  constructor
  · rintro sound content listed stack rfl
    obtain ⟨slot, held⟩ := List.mem_iff_getElem?.mp listed
    exact sound slot stack (get?_eq_some_iff.mpr held)
  · intro all slot stack held
    exact all _ (List.mem_iff_getElem?.mpr ⟨slot, get?_eq_some_iff.mp held⟩) stack rfl

instance (inventory : Inventory) : Decidable inventory.Sound :=
  decidable_of_iff _ sound_iff.symm

theorem get?_put (inventory : Inventory) (slot other : Nat) (content : Option ItemStack) :
    (inventory.put slot content).get? other =
      if other = slot ∧ slot < inventory.size then content else inventory.get? other := by
  unfold get? put size
  rw [List.getElem?_set]
  by_cases same : slot = other
  · subst same
    by_cases there : slot < inventory.slots.length <;> simp [there]
  · simp [same, Ne.symm same]

theorem get?_put_of_ne (inventory : Inventory) {slot other : Nat} (apart : other ≠ slot)
    (content : Option ItemStack) : (inventory.put slot content).get? other = inventory.get? other := by
  rw [get?_put, if_neg fun both => apart both.1]

theorem get?_put_self {inventory : Inventory} {slot : Nat} (there : slot < inventory.size)
    (content : Option ItemStack) : (inventory.put slot content).get? slot = content := by
  rw [get?_put, if_pos ⟨rfl, there⟩]

@[simp] theorem put_put (inventory : Inventory) (slot : Nat) (first second : Option ItemStack) :
    (inventory.put slot first).put slot second = inventory.put slot second := by
  simp [put]

/-- Putting a slot's own content into it changes nothing. -/
theorem put_of_get? {inventory : Inventory} {slot : Nat} {stack : ItemStack}
    (held : inventory.get? slot = some stack) : inventory.put slot (some stack) = inventory := by
  have there := get?_eq_some_iff.mp held
  obtain ⟨bound, value⟩ := List.getElem?_eq_some_iff.mp there
  rw [put, ← value, List.set_getElem_self]

theorem lt_size_of_get? {inventory : Inventory} {slot : Nat} {stack : ItemStack}
    (held : inventory.get? slot = some stack) : slot < inventory.size :=
  (List.getElem?_eq_some_iff.mp (get?_eq_some_iff.mp held)).1

theorem Sound.put {inventory : Inventory} (sound : inventory.Sound) (slot : Nat)
    {content : Option ItemStack} (may : ∀ stack, content = some stack → stack.Sound) :
    (inventory.put slot content).Sound := by
  intro other stack held
  rw [get?_put] at held
  split at held
  · exact may stack held
  · exact sound other stack held

/-- The number of items of a kind after a slot was overwritten. -/
theorem total_put {inventory : Inventory} {slot : Nat} (there : slot < inventory.size)
    (content : Option ItemStack) (id : String) :
    (inventory.put slot content).total id + countOf id (inventory.get? slot) =
      inventory.total id + countOf id content := by
  obtain ⟨slots⟩ := inventory
  show (slots.set slot content).foldr (fun content rest => countOf id content + rest) 0 +
      countOf id slots[slot]?.join =
    slots.foldr (fun content rest => countOf id content + rest) 0 + countOf id content
  replace there : slot < slots.length := there
  induction slots generalizing slot with
  | nil => cases there
  | cons head rest ih =>
    cases slot with
    | zero =>
      simp only [List.set_cons_zero, List.foldr_cons, List.getElem?_cons_zero, Option.join_some]
      omega
    | succ slot =>
      have later := ih (Nat.lt_of_succ_lt_succ there)
      simp only [List.set_cons_succ, List.foldr_cons, List.getElem?_cons_succ]
      omega

/-! ### Taking -/

theorem countOf_single (id item : String) :
    countOf id (some (.single item)) = if item = id then 1 else 0 := rfl

theorem countOf_less (stack : ItemStack) (placed : Nat) (fits : placed ≤ stack.count) (id : String) :
    countOf id (stack.less placed) + countOf id (some { stack with count := placed }) =
      countOf id (some stack) := by
  unfold ItemStack.less
  by_cases more : placed < stack.count
  · simp only [more, ↓reduceIte, countOf]
    split <;> omega
  · simp only [more, ↓reduceIte, countOf]
    split <;> omega

theorem take_of_get? {inventory : Inventory} {slot count : Nat} {stack : ItemStack}
    (held : inventory.get? slot = some stack) (some : 1 ≤ stack.count) (wanted : count ≠ 0) :
    inventory.take slot count = (Option.some { stack with count := min count stack.count },
      inventory.put slot (stack.less (min count stack.count))) := by
  unfold take
  simp only [held]
  rw [if_neg (by omega)]

theorem take_eq_some {inventory spared : Inventory} {slot count : Nat} {taken : ItemStack}
    (took : inventory.take slot count = (some taken, spared)) :
    ∃ stack, inventory.get? slot = some stack ∧ 1 ≤ taken.count ∧ taken.count = min count stack.count ∧
      taken = { stack with count := taken.count } ∧
      spared = inventory.put slot (stack.less taken.count) := by
  unfold take at took
  split at took
  · cases took
  · rename_i stack held
    dsimp only at took
    split at took
    · cases took
    · cases took
      exact ⟨stack, held, by dsimp only; omega, rfl, rfl, rfl⟩

theorem Sound.take {inventory spared : Inventory} (sound : inventory.Sound) {slot count : Nat}
    {taken : Option ItemStack} (took : inventory.take slot count = (taken, spared)) : spared.Sound := by
  rcases taken with _ | taken
  · unfold Inventory.take at took
    split at took
    · cases took
      exact sound
    · dsimp only at took
      split at took
      · cases took
        exact sound
      · cases took
  · obtain ⟨stack, held, _, _, _, left⟩ := take_eq_some took
    subst left
    exact sound.put slot fun rest less => (sound slot stack held).less less

theorem total_take {inventory spared : Inventory} {slot count : Nat} {taken : ItemStack}
    (took : inventory.take slot count = (some taken, spared)) (id : String) :
    spared.total id + countOf id (some taken) = inventory.total id := by
  obtain ⟨stack, held, _, counted, shape, left⟩ := take_eq_some took
  have whole := total_put (lt_size_of_get? held) (stack.less taken.count) id
  have parts := countOf_less stack taken.count (by omega) id
  rw [held] at whole
  rw [← shape] at parts
  rw [left]
  omega

/-- To take one item out of a slot that holds some makes one item less of its kind. -/
theorem total_take_one {inventory : Inventory} {slot : Nat} {stack : ItemStack}
    (held : inventory.get? slot = some stack) (some : 1 ≤ stack.count) (id : String) :
    (inventory.take slot 1).2.total id + countOf id (Option.some (.single stack.id)) =
      inventory.total id := by
  have one : min 1 stack.count = 1 := by omega
  have took := take_of_get? held some Nat.one_ne_zero
  rw [one] at took
  rw [← total_take took id, took]
  rfl

/-! ### Putting in -/

/-- How many items a slot holds. -/
def countAt (inventory : Inventory) (slot : Nat) : Nat :=
  ((inventory.get? slot).map (·.count)).getD 0

/-- As many items are put into a slot as it has room for. -/
theorem insertInto_eq (inventory : Inventory) (slot : Nat) {stack : ItemStack}
    (some : 1 ≤ stack.count) :
    inventory.insertInto slot stack =
      (stack.less (min stack.count (inventory.room slot stack.id)),
        if min stack.count (inventory.room slot stack.id) = 0 then inventory
        else inventory.put slot (Option.some { stack with
          count := inventory.countAt slot + min stack.count (inventory.room slot stack.id) })) := by
  have whole : stack.less 0 = Option.some stack := by
    rw [ItemStack.less, if_pos (by omega), Nat.sub_zero]
  unfold insertInto room countAt get?
  rcases there : inventory.slots[slot]? with _ | _ | held
  · simp [whole]
  · have limited : min stack.count stackLimit ≠ 0 := by simp only [stackLimit]; omega
    simp [limited]
  · by_cases same : held.id = stack.id
    · simp only [same, ↓reduceIte, Option.join_some, Option.map_some, Option.getD_some]
      by_cases none : min stack.count (stackLimit - held.count) = 0
      · have kept := put_of_get? (get?_eq_some_iff.mpr there)
        have shape : held = { stack with count := held.count } := by rw [← same]
        rw [if_pos none, none, Nat.add_zero, ← shape, kept]
      · rw [if_neg none, ← same]
    · simp [same, whole]

theorem total_insertInto {inventory after : Inventory} {slot : Nat} {stack : ItemStack}
    {rest : Option ItemStack} (put : inventory.insertInto slot stack = (rest, after)) (id : String) :
    after.total id + countOf id rest = inventory.total id + countOf id (some stack) := by
  suffices both : (inventory.insertInto slot stack).2.total id +
      countOf id (inventory.insertInto slot stack).1 =
        inventory.total id + countOf id (some stack) by
    rwa [put] at both
  unfold insertInto
  rcases there : inventory.slots[slot]? with _ | _ | held
  · rfl
  · have bound : slot < inventory.size := (List.getElem?_eq_some_iff.mp there).1
    have whole := total_put bound (some { stack with count := min stack.count stackLimit }) id
    have parts := countOf_less stack (min stack.count stackLimit) (by omega) id
    have empty : inventory.get? slot = none := by rw [get?, there]; rfl
    rw [empty] at whole
    simp only [countOf] at whole parts ⊢
    omega
  · by_cases same : held.id = stack.id
    · have bound : slot < inventory.size := (List.getElem?_eq_some_iff.mp there).1
      have whole := total_put bound (some { held with
        count := held.count + min stack.count (stackLimit - held.count) }) id
      have parts := countOf_less stack (min stack.count (stackLimit - held.count))
        (by omega) id
      rw [get?_eq_some_iff.mpr there] at whole
      simp only [same, ↓reduceIte]
      by_cases own : stack.id = id
      · simp only [countOf, same, own, ↓reduceIte] at whole parts ⊢
        omega
      · simp only [countOf, same, own, ↓reduceIte] at whole parts ⊢
        omega
    · simp only [same, ↓reduceIte]

/-- What a slot holds and what it has room for stay within the stack limit. -/
theorem Sound.countAt_add_room {inventory : Inventory} (sound : inventory.Sound) (slot : Nat)
    (id : String) : inventory.countAt slot + inventory.room slot id ≤ stackLimit := by
  rcases there : inventory.slots[slot]? with _ | _ | held
  · simp [countAt, room, get?, there]
  · simp [countAt, room, get?, there]
  · have fits := (sound slot held (get?_eq_some_iff.mpr there)).fits
    simp only [countAt, room, get?, there, Option.join_some, Option.map_some, Option.getD_some]
    split <;> omega

theorem Sound.insertInto {inventory after : Inventory} (sound : inventory.Sound) {slot : Nat}
    {stack : ItemStack} {rest : Option ItemStack} (some : 1 ≤ stack.count)
    (put : inventory.insertInto slot stack = (rest, after)) : after.Sound := by
  have limit := sound.countAt_add_room slot stack.id
  rw [insertInto_eq inventory slot some] at put
  cases put
  split
  · exact sound
  · refine sound.put slot fun after same => ?_
    cases same
    exact ⟨by dsimp only; omega, by dsimp only; omega⟩

theorem insertInto_rest {inventory after : Inventory} {slot : Nat} {stack rest : ItemStack}
    (some : 1 ≤ stack.count) (left : inventory.insertInto slot stack = (Option.some rest, after)) :
    rest = { stack with count := rest.count } ∧ 1 ≤ rest.count ∧ rest.count ≤ stack.count := by
  rw [insertInto_eq inventory slot some] at left
  have less := congrArg Prod.fst left
  simp only [ItemStack.less] at less
  split at less
  · cases less
    exact ⟨rfl, by dsimp only; omega, by dsimp only; omega⟩
  · cases less

theorem total_insertAlong {start : Nat} {distances : List Nat} {stack : ItemStack}
    {inventory after : Inventory} {rest : Option ItemStack}
    (ended : insertAlong start distances stack inventory = (.ok rest, after)) (id : String) :
    after.total id + countOf id rest = inventory.total id + countOf id (some stack) := by
  induction distances generalizing stack inventory with
  | nil =>
    cases ended
    rfl
  | cons distance further ih =>
    rw [insertAlong] at ended
    split at ended
    · cases ended
    · split at ended
      · rename_i filled all
        cases ended
        exact total_insertInto all id
      · rename_i left filled more
        exact (ih ended).trans (total_insertInto more id)

/-- Slots at distances that can be counted take what they can, and nothing breaks off. -/
theorem insertAlong_ok {start : Nat} {distances : List Nat} (stack : ItemStack) (inventory : Inventory)
    (countable : ∀ distance ∈ distances, start + distance < word64) :
    ∃ rest, (insertAlong start distances stack inventory).1 = .ok rest := by
  induction distances generalizing stack inventory with
  | nil => exact ⟨some stack, rfl⟩
  | cons distance further ih =>
    have near := countable distance List.mem_cons_self
    rw [insertAlong, if_neg (Nat.not_le.mpr near)]
    split
    · exact ⟨none, rfl⟩
    · exact ih _ _ fun later listed => countable later (List.mem_cons_of_mem _ listed)

theorem insertFrom_ok (inventory : Inventory) {start : Nat}
    (countable : start + inventory.size ≤ word64) (stack : ItemStack) :
    ∃ rest, (inventory.insertFrom start stack).1 = .ok rest := by
  apply insertAlong_ok
  intro distance listed
  have near := List.mem_range.mp listed
  omega

/-! ### Giving back -/

theorem insertInto_back {inventory : Inventory} {slot : Nat} {stack : ItemStack}
    (sound : stack.Sound) (there : slot < inventory.size) {taken back : Nat}
    (held : inventory.get? slot = stack.less taken) (some : 1 ≤ back) (few : back ≤ taken)
    (most : taken ≤ stack.count) :
    inventory.insertInto slot { stack with count := back } =
      (none, inventory.put slot (Option.some { stack with count := stack.count - taken + back })) := by
  have fits := sound.fits
  unfold insertInto
  have slotted : ∃ content, inventory.slots[slot]? = Option.some content :=
    ⟨_, List.getElem?_eq_getElem there⟩
  obtain ⟨content, slotted⟩ := slotted
  have content_eq : content = stack.less taken := by
    rw [← held, get?, slotted, Option.join_some]
  rw [slotted, content_eq, ItemStack.less]
  by_cases more : taken < stack.count
  · simp only [more, ↓reduceIte]
    have all : min back (stackLimit - (stack.count - taken)) = back := by omega
    simp only [all, ItemStack.less, Nat.lt_irrefl, ↓reduceIte]
  · simp only [more, ↓reduceIte]
    have all : min back stackLimit = back := by omega
    have nothing : stack.count - taken + back = back := by omega
    simp only [all, nothing, ItemStack.less, Nat.lt_irrefl, ↓reduceIte]

theorem get?_insertInto_of_ne {inventory after : Inventory} {slot other : Nat} {stack : ItemStack}
    {rest : Option ItemStack} (put : inventory.insertInto slot stack = (rest, after))
    (apart : other ≠ slot) : after.get? other = inventory.get? other := by
  unfold insertInto at put
  split at put
  · cases put
    rfl
  · cases put
    exact get?_put_of_ne _ apart _
  · dsimp only at put
    split at put
    · cases put
      exact get?_put_of_ne _ apart _
    · cases put
      rfl

/-- The inventory after items that were taken from one slot were put into another one and the rest
went back, with the number of items that stayed there. -/
inductive Moves (inventory : Inventory) (slot source : Nat) (taken : ItemStack) :
    Nat → Inventory → Prop where
  | all {after : Inventory} (put : inventory.insertInto slot taken = (none, after)) :
      Moves inventory slot source taken taken.count after
  | some {after : Inventory} {rest : ItemStack}
      (put : inventory.insertInto slot taken = (some rest, after)) :
      Moves inventory slot source taken (taken.count - rest.count) (after.insertInto source rest).2

namespace Moves

variable {inventory spared after : Inventory} {slot source count moved : Nat} {taken : ItemStack}

theorem back {rest : ItemStack}
    (sound : ∀ stack, inventory.get? source = Option.some stack → stack.Sound)
    (took : inventory.take source count = (Option.some taken, spared)) (apart : slot ≠ source)
    (put : spared.insertInto slot taken = (Option.some rest, after)) :
    ∃ stack, inventory.get? source = Option.some stack ∧
      after.insertInto source rest = (none,
        after.put source (Option.some { stack with count := stack.count - taken.count + rest.count })) := by
  obtain ⟨stack, held, some, counted, shape, left⟩ := take_eq_some took
  obtain ⟨restShape, more, few⟩ := insertInto_rest some put
  have there : source < after.size := by
    have sizes := size_insertInto spared slot taken
    rw [put, left, size_put] at sizes
    exact Nat.lt_of_lt_of_eq (lt_size_of_get? held) sizes.symm
  have kept : after.get? source = stack.less taken.count := by
    rw [get?_insertInto_of_ne put (Ne.symm apart), left, get?_put_self (lt_size_of_get? held)]
  have kind : rest = { stack with count := rest.count } := by rw [restShape, shape]
  refine ⟨stack, held, ?_⟩
  rw [kind]
  exact insertInto_back (sound stack held) there kept more few (by omega)

theorem total (moves : spared.Moves slot source taken moved after) (sound : inventory.Sound)
    (took : inventory.take source count = (Option.some taken, spared)) (apart : slot ≠ source)
    (id : String) : after.total id = inventory.total id := by
  have whole := total_take took id
  cases moves with
  | all put =>
    have filled := total_insertInto put id
    exact filled.trans whole
  | @some filled rest put =>
    obtain ⟨stack, _, returned⟩ := back (sound source) took apart put
    have first := total_insertInto put id
    have second := total_insertInto returned id
    have nothing : countOf id none = 0 := rfl
    rw [returned]
    dsimp only
    omega

theorem eq_of_none (moves : spared.Moves slot source taken moved after) (none : moved = 0)
    (sound : ∀ stack, inventory.get? source = Option.some stack → stack.Sound)
    (took : inventory.take source count = (Option.some taken, spared))
    (apart : slot ≠ source) : after = inventory := by
  obtain ⟨stack, held, some, counted, shape, left⟩ := take_eq_some took
  cases moves with
  | all put => omega
  | @some filled rest put =>
    obtain ⟨same, isHeld, returned⟩ := back sound took apart put
    cases held.symm.trans isHeld
    obtain ⟨_, more, few⟩ := insertInto_rest some put
    have nothing : filled = spared := by
      rw [insertInto_eq spared slot some] at put
      obtain ⟨less, result⟩ := Prod.mk.inj put
      have placed : min taken.count (spared.room slot taken.id) = 0 := by
        unfold ItemStack.less at less
        split at less
        · cases less
          dsimp only at none
          omega
        · cases less
      rw [placed] at result
      exact result.symm
    have whole : stack.count - taken.count + rest.count = stack.count := by omega
    rw [returned, nothing, left, put_put, whole]
    exact put_of_get? held

end Moves

/-- The inventory after the upgrade that was on a side was put into it from a slot on. -/
inductive Stows (inventory : Inventory) (slot : Nat) : Option Upgrade → Inventory → Prop where
  | nothing : Stows inventory slot none inventory
  | item {upgrade : Upgrade} {after : Inventory}
      (fits : inventory.insertFrom slot (.single upgrade.id) = (.ok none, after)) :
      Stows inventory slot (some upgrade) after

theorem total_insertFrom {inventory after : Inventory} {slot : Nat} {stack : ItemStack}
    {rest : Option ItemStack} (ended : inventory.insertFrom slot stack = (.ok rest, after))
    (id : String) : after.total id + countOf id rest = inventory.total id + countOf id (some stack) :=
  total_insertAlong ended id

/-! ### Handling -/

/-- The inventory after items were taken out of slots, and stacks with items were put into slots. -/
inductive Handled (inventory : Inventory) : Inventory → Prop where
  | kept : Handled inventory inventory
  | took {during : Inventory} (handled : Handled inventory during) (slot count : Nat) :
      Handled inventory (during.take slot count).2
  | filled {during : Inventory} (handled : Handled inventory during) (slot : Nat) {stack : ItemStack}
      (some : 1 ≤ stack.count) : Handled inventory (during.insertInto slot stack).2

namespace Handled

variable {inventory during after : Inventory}

theorem insertAlong {start : Nat} {distances : List Nat} {stack : ItemStack}
    {rest : Except Fault (Option ItemStack)} (handled : inventory.Handled during)
    (some : 1 ≤ stack.count) (ended : insertAlong start distances stack during = (rest, after)) :
    inventory.Handled after := by
  induction distances generalizing stack during with
  | nil =>
    cases ended
    exact handled
  | cons distance further ih =>
    rw [Inventory.insertAlong] at ended
    split at ended
    · cases ended
      exact handled
    · have filled := handled.filled ((start + distance) % during.size) some
      split at ended
      · rename_i all
        cases ended
        rwa [all] at filled
      · rename_i more
        rw [more] at filled
        exact ih filled (insertInto_rest some more).2.1 ended

theorem moves {slot source moved : Nat} {taken : ItemStack} (handled : inventory.Handled during)
    (some : 1 ≤ taken.count) (moves : during.Moves slot source taken moved after) :
    inventory.Handled after := by
  have filled := handled.filled slot some
  cases moves with
  | all put => rwa [put] at filled
  | some put =>
    rw [put] at filled
    exact filled.filled source (insertInto_rest some put).2.1

theorem stows {slot : Nat} {upgrade : Option Upgrade} (handled : inventory.Handled during)
    (stows : during.Stows slot upgrade after) : inventory.Handled after := by
  cases stows with
  | nothing => exact handled
  | item fits => exact handled.insertAlong (Nat.le_refl 1) fits

end Handled

theorem Sound.handled {inventory after : Inventory} (sound : inventory.Sound)
    (handled : inventory.Handled after) : after.Sound := by
  induction handled with
  | kept => exact sound
  | took _ slot count ih => exact ih.take rfl
  | filled _ slot some ih => exact ih.insertInto some rfl

end Inventory

end TurtleFleet
