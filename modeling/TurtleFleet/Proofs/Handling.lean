import Mathlib.Data.List.Induction
import TurtleFleet.Proofs.Filling

/-! The calls that change an inventory, in any sequence, with any slots, counts and stacks. No slot
comes to hold more than the stack limit. A slot that is occupied holds items as well, unless a stack
without items was put where it came to an empty slot: the slot takes the kind of the stack all the same.
The main statement says that this is the one way to it, and that without it an inventory without items
is an inventory with all slots empty. -/

namespace TurtleFleet

namespace Inventory

inductive Call where
  | set (slot : Nat) (content : Option ItemStack)
  | take (slot count : Nat)
  | insertInto (slot : Nat) (stack : ItemStack)
  | insertFrom (start : Nat) (stack : ItemStack)
deriving DecidableEq, Repr

/-- What a call leaves. A call that breaks off leaves what it did before. -/
def after (inventory : Inventory) : Call → Inventory
  | .set slot content => (inventory.set slot content).2
  | .take slot count => (inventory.take slot count).2
  | .insertInto slot stack => (inventory.insertInto slot stack).2
  | .insertFrom start stack => (inventory.insertFrom start stack).2

/-- A new inventory after some calls. -/
def handle (calls : List Call) : Inventory := calls.foldl after {}

/-- A stack that is written into a slot keeps the stack limit. -/
def Call.Limited : Call → Prop
  | .set _ content => ∀ stack ∈ content, stack.count ≤ stackLimit
  | _ => True

instance : (call : Call) → Decidable call.Limited
  | .set _ content => inferInstanceAs (Decidable (∀ stack ∈ content, stack.count ≤ stackLimit))
  | .take .. => .isTrue trivial
  | .insertInto .. => .isTrue trivial
  | .insertFrom .. => .isTrue trivial

/-- A stack of a kind comes to an empty slot: the slots at the distances before it hold other kinds. -/
inductive Lands (inventory : Inventory) (start : Nat) (id : String) : List Nat → Nat → Prop where
  | here {distance : Nat} {further : List Nat} (countable : start + distance < word64)
      (empty : inventory.slots[(start + distance) % inventory.size]? = some none) :
      Lands inventory start id (distance :: further) ((start + distance) % inventory.size)
  | on {distance slot : Nat} {further : List Nat} (countable : start + distance < word64)
      (taken : inventory.slots[(start + distance) % inventory.size]? ≠ some none)
      (other : ∀ held, inventory.get? ((start + distance) % inventory.size) = some held → held.id ≠ id)
      (lands : Lands inventory start id further slot) :
      Lands inventory start id (distance :: further) slot

/-- A call puts a stack without items where it comes to an empty slot. -/
def Call.Plants (inventory : Inventory) : Call → Prop
  | .insertInto slot stack => stack.count = 0 ∧ inventory.slots[slot]? = some none
  | .insertFrom start stack =>
    stack.count = 0 ∧ ∃ slot, inventory.Lands start stack.id (List.range inventory.size) slot
  | _ => False

/-- No slot holds more than the stack limit. -/
def Within (inventory : Inventory) : Prop :=
  ∀ slot stack, inventory.get? slot = some stack → stack.count ≤ stackLimit

/-! ### Within the limit -/

namespace Within

variable {inventory : Inventory}

theorem put (within : inventory.Within) (slot : Nat) {content : Option ItemStack}
    (may : ∀ stack, content = some stack → stack.count ≤ stackLimit) :
    (inventory.put slot content).Within := by
  intro other stack held
  rw [get?_put] at held
  split at held
  · exact may stack held
  · exact within other stack held

theorem take (within : inventory.Within) (slot count : Nat) : (inventory.take slot count).2.Within := by
  rcases took : inventory.take slot count with ⟨_ | taken, spared⟩
  · have same : spared = inventory := by
      unfold Inventory.take at took
      split at took <;> grind
    exact same ▸ within
  · obtain ⟨stack, held, _, _, _, left⟩ := take_eq_some took
    have fits := within slot stack held
    rw [left]
    refine within.put slot fun rest less => ?_
    unfold ItemStack.less at less
    split at less
    · cases less
      exact Nat.le_trans (Nat.sub_le ..) fits
    · cases less

theorem insertInto (within : inventory.Within) (slot : Nat) (stack : ItemStack) :
    (inventory.insertInto slot stack).2.Within := by
  unfold Inventory.insertInto
  rcases there : inventory.slots[slot]? with _ | _ | held
  · exact within
  · refine within.put slot fun placed same => ?_
    cases same
    exact Nat.min_le_right ..
  · have fits := within slot held (get?_eq_some_iff.mpr there)
    dsimp only
    split
    · refine within.put slot fun placed same => ?_
      cases same
      dsimp only
      omega
    · exact within

theorem insertAlong (within : inventory.Within) (start : Nat) (distances : List Nat)
    (stack : ItemStack) : (insertAlong start distances stack inventory).2.Within := by
  induction distances generalizing inventory stack with
  | nil => exact within
  | cons distance further ih =>
    have next := within.insertInto ((start + distance) % inventory.size) stack
    rw [Inventory.insertAlong]
    split
    · exact within
    · split
      · rename_i filled all
        rwa [all] at next
      · rename_i rest filled more
        rw [more] at next
        exact ih next rest

theorem after (within : inventory.Within) {call : Call} (limited : call.Limited) :
    (inventory.after call).Within := by
  cases call with
  | set slot content =>
    exact within.put slot fun stack kept => limited stack (Option.filter_eq_some_iff.mp kept).1
  | take slot count => exact within.take slot count
  | insertInto slot stack => exact within.insertInto slot stack
  | insertFrom start stack => exact within.insertAlong start _ stack

end Within

/-! ### Stacks without items -/

section

variable {inventory : Inventory} {start slot : Nat} {distances : List Nat} {stack : ItemStack}

/-- Past a slot of another kind a stack is handed on. -/
theorem insertInto_of_other (taken : inventory.slots[slot]? ≠ some none)
    (other : ∀ held, inventory.get? slot = some held → held.id ≠ stack.id) :
    inventory.insertInto slot stack = (some stack, inventory) := by
  unfold insertInto
  rcases there : inventory.slots[slot]? with _ | _ | held
  · rfl
  · exact absurd there taken
  · exact if_neg (other held (get?_eq_some_iff.mpr there))

/-- A stack without items ends in a slot of its kind. -/
theorem insertInto_of_same (without : stack.count = 0) {held : ItemStack}
    (there : inventory.get? slot = some held) (same : held.id = stack.id) :
    inventory.insertInto slot stack = (none, inventory) := by
  rw [insertInto, get?_eq_some_iff.mp there]
  dsimp only
  rw [if_pos same, without, Nat.zero_min, Nat.add_zero, put_of_get? there, ItemStack.less, without]
  rfl

/-- An empty slot takes a stack without items as it is. -/
theorem insertInto_of_empty (without : stack.count = 0) (empty : inventory.slots[slot]? = some none) :
    inventory.insertInto slot stack = (none, inventory.put slot (some stack)) := by
  obtain ⟨id, count⟩ := stack
  cases without
  simp [insertInto, empty, ItemStack.less]

/-- A stack without items changes nothing but an empty slot. -/
theorem insertInto_of_taken (without : stack.count = 0) (taken : inventory.slots[slot]? ≠ some none) :
    (inventory.insertInto slot stack).2 = inventory := by
  by_cases other : ∀ held, inventory.get? slot = some held → held.id ≠ stack.id
  · rw [insertInto_of_other taken other]
  · simp only [not_forall, ne_eq, not_not] at other
    obtain ⟨held, there, same⟩ := other
    rw [insertInto_of_same without there same]

theorem insertAlong_of_lands (without : stack.count = 0)
    (lands : inventory.Lands start stack.id distances slot) :
    (insertAlong start distances stack inventory).2 = inventory.put slot (some stack) ∧
      inventory.slots[slot]? = some none := by
  induction lands with
  | here countable empty =>
    rw [insertAlong, if_neg (Nat.not_le.mpr countable), insertInto_of_empty without empty]
    exact ⟨rfl, empty⟩
  | on countable taken other lands ih =>
    rw [insertAlong, if_neg (Nat.not_le.mpr countable), insertInto_of_other taken other]
    exact ih

theorem insertAlong_of_not_lands (without : stack.count = 0)
    (away : ∀ slot, ¬ inventory.Lands start stack.id distances slot) :
    (insertAlong start distances stack inventory).2 = inventory := by
  induction distances with
  | nil => rfl
  | cons distance further ih =>
    rw [insertAlong]
    split
    · rfl
    · rename_i near
      have countable := Nat.not_le.mp near
      have taken : inventory.slots[(start + distance) % inventory.size]? ≠ some none :=
        fun empty => away _ (.here countable empty)
      by_cases other : ∀ held,
          inventory.get? ((start + distance) % inventory.size) = some held → held.id ≠ stack.id
      · rw [insertInto_of_other taken other]
        exact ih fun slot lands => away slot (.on countable taken other lands)
      · simp only [not_forall, ne_eq, not_not] at other
        obtain ⟨held, there, same⟩ := other
        rw [insertInto_of_same without there same]

/-- A slot that was given a stack without items holds one. -/
theorem not_sound_put {content : Option ItemStack} (without : stack.count = 0)
    (there : inventory.slots[slot]? = some content) : ¬ (inventory.put slot (some stack)).Sound := by
  intro sound
  have bound : slot < inventory.size := (List.getElem?_eq_some_iff.mp there).1
  have some := (sound slot stack (get?_put_self bound _)).some
  omega

end

/-! ### Calls -/

/-- What a call with a stack without items leaves. -/
theorem sound_after_iff {inventory : Inventory} (sound : inventory.Sound) {call : Call}
    (limited : call.Limited) : (inventory.after call).Sound ↔ ¬ call.Plants inventory := by
  cases call with
  | set slot content =>
    refine iff_of_true (sound.put slot fun stack kept => ?_) id
    obtain ⟨given, some⟩ := Option.filter_eq_some_iff.mp kept
    exact ⟨of_decide_eq_true some, limited stack given⟩
  | take slot count => exact iff_of_true (sound.take rfl) id
  | insertInto slot stack =>
    rcases Nat.eq_zero_or_pos stack.count with without | some
    · by_cases empty : inventory.slots[slot]? = some none
      · have planted : inventory.after (.insertInto slot stack) = inventory.put slot (some stack) := by
          rw [after, insertInto_of_empty without empty]
        rw [planted]
        exact iff_of_false (not_sound_put without empty) fun kept => kept ⟨without, empty⟩
      · have same : inventory.after (.insertInto slot stack) = inventory :=
          insertInto_of_taken without empty
        rw [same]
        exact iff_of_true sound fun plants => empty plants.2
    · exact iff_of_true (sound.insertInto some rfl) fun plants => by
        have without := plants.1
        omega
  | insertFrom start stack =>
    rcases Nat.eq_zero_or_pos stack.count with without | some
    · by_cases lands : ∃ slot, inventory.Lands start stack.id (List.range inventory.size) slot
      · obtain ⟨slot, lands⟩ := lands
        obtain ⟨planted, empty⟩ := insertAlong_of_lands without lands
        rw [after, insertFrom, planted]
        exact iff_of_false (not_sound_put without empty) fun kept => kept ⟨without, slot, lands⟩
      · have same : inventory.after (.insertFrom start stack) = inventory :=
          insertAlong_of_not_lands without (not_exists.mp lands)
        rw [same]
        exact iff_of_true sound fun plants => lands plants.2
    · have handled := (Handled.kept : inventory.Handled inventory).insertAlong some
        (rfl : insertAlong start (List.range inventory.size) stack inventory = (_, _))
      exact iff_of_true (sound.handled handled) fun plants => by
        have without := plants.1
        omega

/-- There are no fewer items of a kind than one slot holds. -/
theorem count_le_total {inventory : Inventory} {slot : Nat} {stack : ItemStack}
    (held : inventory.get? slot = some stack) : stack.count ≤ inventory.total stack.id := by
  have whole := total_put (lt_size_of_get? held) none stack.id
  rw [held] at whole
  simp only [countOf, ↓reduceIte] at whole
  omega

theorem total_of_isEmpty {inventory : Inventory} (empty : inventory.isEmpty = true) (id : String) :
    inventory.total id = 0 := by
  obtain ⟨slots⟩ := inventory
  induction slots with
  | nil => rfl
  | cons content further ih =>
    obtain ⟨first, others⟩ := Bool.and_eq_true_iff.mp (List.all_cons.symm.trans empty)
    rw [Option.isNone_iff_eq_none.mp first]
    exact (Nat.zero_add _).trans (ih others)

/-- An inventory in which every occupied slot holds items is empty exactly if it has no items. -/
theorem Sound.isEmpty_iff {inventory : Inventory} (sound : inventory.Sound) :
    inventory.isEmpty = true ↔ ∀ id, inventory.total id = 0 := by
  refine ⟨total_of_isEmpty, fun nothing => ?_⟩
  rw [isEmpty, List.all_eq_true]
  intro content listed
  rcases content with _ | stack
  · rfl
  · obtain ⟨slot, there⟩ := List.mem_iff_getElem?.mp listed
    have held := get?_eq_some_iff.mpr there
    have some := (sound slot stack held).some
    have few := count_le_total held
    rw [nothing] at few
    omega

/-! ### Sequences of calls -/

theorem handle_append (calls : List Call) (call : Call) :
    handle (calls ++ [call]) = (handle calls).after call := by
  simp only [handle, List.foldl_append, List.foldl_cons, List.foldl_nil]

theorem sound_new : ({} : Inventory).Sound := by decide

theorem within_handle {calls : List Call} (limited : ∀ call ∈ calls, call.Limited) :
    (handle calls).Within := by
  induction calls using List.reverseRecOn with
  | nil => exact fun slot stack held => (sound_new slot stack held).fits
  | append_singleton calls call ih =>
    rw [handle_append]
    have last := limited call (List.mem_append_right _ List.mem_cons_self)
    exact (ih fun call listed => limited call (List.mem_append_left _ listed)).after last

/-- As long as no call plants a stack without items every occupied slot holds some. -/
theorem sound_handle {calls : List Call} (limited : ∀ call ∈ calls, call.Limited)
    (bare : ∀ before call, before ++ [call] <+: calls → ¬ call.Plants (handle before)) :
    (handle calls).Sound := by
  induction calls using List.reverseRecOn with
  | nil => exact sound_new
  | append_singleton calls call ih =>
    rw [handle_append]
    have earlier := ih (fun call listed => limited call (List.mem_append_left _ listed))
      fun before call begun => bare before call (begun.trans (List.prefix_append ..))
    have last := limited call (List.mem_append_right _ List.mem_cons_self)
    exact (sound_after_iff earlier last).mpr (bare calls call (List.prefix_refl _))

/-- However an inventory is handled no slot comes to hold more than the stack limit. At all times every
occupied slot holds items, and then the inventory is empty exactly if it has no items, unless a stack
without items was planted into an empty slot. -/
theorem occupied_slots_hold_items_unless_planted (calls : List Call)
    (limited : ∀ call ∈ calls, call.Limited) :
    (∀ slot stack, (handle calls).get? slot = some stack → stack.count ≤ stackLimit) ∧
      ((∀ before, before <+: calls → (handle before).Sound) ↔
        ∀ before call, before ++ [call] <+: calls → ¬ call.Plants (handle before)) ∧
      ((handle calls).Sound → ((handle calls).isEmpty = true ↔ ∀ id, (handle calls).total id = 0)) := by
  have within (before : List Call) (begun : before <+: calls) : ∀ call ∈ before, call.Limited :=
    fun call listed => limited call (begun.subset listed)
  refine ⟨within_handle limited, ⟨fun sound before call begun => ?_, fun bare before begun => ?_⟩,
    Sound.isEmpty_iff⟩
  · have earlier := sound before ((List.prefix_append ..).trans begun)
    have later := sound (before ++ [call]) begun
    rw [handle_append] at later
    have last := within _ begun call (List.mem_append_right _ List.mem_cons_self)
    exact (sound_after_iff earlier last).mp later
  · exact sound_handle (within before begun) fun earlier call first =>
      bare earlier call (first.trans begun)

/-- Stones are put in around the end, then a stack without stones where some are, and all are taken
out again. -/
def borrowing : List Call :=
  [.insertFrom 15 ⟨"stone", 70⟩, .insertInto 0 ⟨"stone", 0⟩, .take 15 64, .set 3 (some ⟨"dirt", 0⟩),
    .take 0 100]

theorem occupied_slots_hold_items_unless_planted_borrowing :
    (∀ call ∈ borrowing, call.Limited) ∧ (handle (borrowing.take 2)).get? 0 = some ⟨"stone", 6⟩ ∧
      (∀ slot stack, (handle borrowing).get? slot = some stack → stack.count ≤ stackLimit) ∧
      ∀ id, (handle borrowing).total id = 0 := by
  have limited : ∀ call ∈ borrowing, call.Limited := by decide
  obtain ⟨fits, _, empty⟩ := occupied_slots_hold_items_unless_planted borrowing limited
  exact ⟨limited, by decide, fits, (empty (by decide)).mp (by decide)⟩

/-- One call with a stack without items makes an inventory that has no items and is not empty. -/
theorem empty_stacks_occupy_slots :
    (∀ call ∈ [Call.insertInto 0 ⟨"stone", 0⟩], call.Limited) ∧
      (handle [.insertInto 0 ⟨"stone", 0⟩]).get? 0 = some ⟨"stone", 0⟩ ∧
      ¬ (handle [.insertInto 0 ⟨"stone", 0⟩]).Sound ∧
      (handle [.insertInto 0 ⟨"stone", 0⟩]).isEmpty = false ∧
      ∀ id, (handle [.insertInto 0 ⟨"stone", 0⟩]).total id = 0 := by
  refine ⟨by decide, by decide, by decide, by decide, fun id => ?_⟩
  have put : ({} : Inventory).insertInto 0 ⟨"stone", 0⟩ =
      (none, handle [.insertInto 0 ⟨"stone", 0⟩]) := by decide
  have whole := total_insertInto put id
  have before : ({} : Inventory).total id = 0 := total_of_isEmpty (by decide) id
  have given : countOf id (some ⟨"stone", 0⟩) = 0 := ite_self 0
  omega

end Inventory

end TurtleFleet
