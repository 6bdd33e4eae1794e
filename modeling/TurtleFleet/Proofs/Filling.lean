import Mathlib.Data.List.Nodup
import Mathlib.Data.List.Perm.Subperm
import Mathlib.Data.Nat.ModEq
import TurtleFleet.Proofs.Transfer

/-! Putting a stack into an inventory from a slot on, whatever the slots hold and wherever the round
starts. The slots are filled one after the other, once around: a slot receives what is left over from
the slots before it, up to its own room. So what a slot receives can be read off the inventory as it was
before, by the room of the slots that come earlier, and what is left over in the end is what exceeds the
room of all. -/

namespace TurtleFleet

theorem ItemStack.less_of_lt {stack : ItemStack} {placed : Nat} (more : placed < stack.count) :
    stack.less placed = some { stack with count := stack.count - placed } :=
  if_pos more

theorem ItemStack.less_of_le {stack : ItemStack} {placed : Nat} (all : stack.count ≤ placed) :
    stack.less placed = none :=
  if_neg (Nat.not_lt.mpr all)

namespace Inventory

/-- How many items of a kind some slots still take between them. -/
def roomIn (inventory : Inventory) (id : String) (slots : List Nat) : Nat :=
  (slots.map (inventory.room · id)).sum

/-- All slots, in the order in which they are reached from one of them on. -/
def slotsFrom (inventory : Inventory) (start : Nat) : List Nat :=
  (List.range inventory.size).map fun distance => (start + distance) % inventory.size

/-- How many items of a stack a slot receives when the slots before it have been filled. -/
def share (inventory : Inventory) (stack : ItemStack) (before : List Nat) (slot : Nat) : Nat :=
  min (inventory.room slot stack.id) (stack.count - inventory.roomIn stack.id before)

/-- The content of a slot after it received some items of a kind. -/
def enriched (inventory : Inventory) (id : String) (slot received : Nat) : Option ItemStack :=
  if received = 0 then inventory.get? slot
  else some { id, count := inventory.countAt slot + received }

@[simp] theorem roomIn_nil (inventory : Inventory) (id : String) : inventory.roomIn id [] = 0 := rfl

@[simp] theorem roomIn_cons (inventory : Inventory) (id : String) (slot : Nat) (slots : List Nat) :
    inventory.roomIn id (slot :: slots) = inventory.room slot id + inventory.roomIn id slots := rfl

theorem roomIn_of_perm (inventory : Inventory) (id : String) {slots others : List Nat}
    (same : slots.Perm others) : inventory.roomIn id slots = inventory.roomIn id others :=
  (same.map _).sum_nat

theorem roomIn_congr {inventory after : Inventory} {id : String} {slots : List Nat}
    (same : ∀ slot ∈ slots, after.room slot id = inventory.room slot id) :
    after.roomIn id slots = inventory.roomIn id slots :=
  congrArg List.sum (List.map_congr_left same)

theorem lt_size_of_room {inventory : Inventory} {slot : Nat} {id : String}
    (room : 0 < inventory.room slot id) : slot < inventory.size := by
  rcases Nat.lt_or_ge slot inventory.size with there | beyond
  · exact there
  · rw [Inventory.room, List.getElem?_eq_none beyond] at room
    exact absurd room (Nat.lt_irrefl 0)

/-! ### One slot -/

/-- The inventory after a slot received as many items of a stack as it has room for. -/
def filled (inventory : Inventory) (stack : ItemStack) (slot : Nat) : Inventory :=
  (inventory.insertInto slot stack).2

section

variable (inventory : Inventory) {stack : ItemStack} (some : 1 ≤ stack.count) (slot : Nat)

include some

theorem insertInto_filled : inventory.insertInto slot stack =
    (stack.less (inventory.share stack [] slot), inventory.filled stack slot) := by
  have placed := insertInto_eq inventory slot some
  rw [Nat.min_comm] at placed
  rw [filled, placed]
  rfl

theorem get?_filled_self : (inventory.filled stack slot).get? slot =
    inventory.enriched stack.id slot (inventory.share stack [] slot) := by
  rw [filled, insertInto_eq inventory slot some, Nat.min_comm, enriched, share, roomIn_nil, Nat.sub_zero]
  dsimp only
  split
  · rfl
  · have spare : 0 < inventory.room slot stack.id := by omega
    exact get?_put_self (lt_size_of_room spare) _

end

theorem get?_filled_of_ne (inventory : Inventory) (stack : ItemStack) {slot other : Nat}
    (apart : other ≠ slot) : (inventory.filled stack slot).get? other = inventory.get? other :=
  get?_insertInto_of_ne rfl apart

@[simp] theorem size_filled (inventory : Inventory) (stack : ItemStack) (slot : Nat) :
    (inventory.filled stack slot).size = inventory.size :=
  size_insertInto ..

/-- Among inventories of one size, the content of a slot says what room it has. -/
theorem room_of_get? {inventory after : Inventory} {slot : Nat} (sized : after.size = inventory.size)
    (same : after.get? slot = inventory.get? slot) (id : String) :
    after.room slot id = inventory.room slot id := by
  rcases Nat.lt_or_ge slot inventory.size with there | beyond
  · have thereAfter : slot < after.size := sized ▸ there
    refine room_of_getElem? ?_ id
    rw [get?, get?, List.getElem?_eq_getElem there, List.getElem?_eq_getElem thereAfter,
      Option.join_some, Option.join_some] at same
    rw [List.getElem?_eq_getElem there, List.getElem?_eq_getElem thereAfter, same]
  · have beyondAfter : after.size ≤ slot := sized ▸ beyond
    rw [room, room, List.getElem?_eq_none beyond, List.getElem?_eq_none beyondAfter]

/-! ### One slot after the other -/

/-- What it means that a stack was put into some slots one after the other. -/
structure Fills (inventory : Inventory) (stack : ItemStack) (slots : List Nat)
    (rest : Option ItemStack) (after : Inventory) : Prop where
  rest : rest = stack.less (min stack.count (inventory.roomIn stack.id slots))
  sized : after.size = inventory.size
  shares : ∀ before slot further, slots = before ++ slot :: further →
    after.get? slot = inventory.enriched stack.id slot (inventory.share stack before slot)
  others : ∀ slot, slot ∉ slots → after.get? slot = inventory.get? slot

namespace Fills

variable {inventory after : Inventory} {stack : ItemStack} {slot : Nat} {further : List Nat}
  {rest : Option ItemStack}

/-- The stack ends in the first slot, and the slots after it receive nothing. -/
theorem first (some : 1 ≤ stack.count) (apart : (slot :: further).Nodup)
    (fits : stack.count ≤ inventory.room slot stack.id) :
    inventory.Fills stack (slot :: further) none (inventory.filled stack slot) := by
  refine ⟨?_, size_filled .., fun before later behind split => ?_, fun other away => ?_⟩
  · exact (ItemStack.less_of_le (by rw [roomIn_cons]; omega)).symm
  · rcases before with _ | ⟨head, before⟩
    · cases split
      exact get?_filled_self inventory some slot
    · cases split
      have other : later ≠ slot := fun same =>
        (List.nodup_cons.mp apart).1 (same ▸ List.mem_append_right _ List.mem_cons_self)
      have nothing : inventory.share stack (slot :: before) later = 0 := by
        rw [share, roomIn_cons]
        omega
      rw [nothing, enriched, if_pos rfl]
      exact get?_filled_of_ne _ _ other
  · exact get?_filled_of_ne _ _ fun same => away (same ▸ List.mem_cons_self)

/-- The first slot is filled up, and the slots after it receive what it leaves. -/
theorem next (some : 1 ≤ stack.count) (apart : (slot :: further).Nodup)
    (more : inventory.room slot stack.id < stack.count)
    (fills : (inventory.filled stack slot).Fills
      { stack with count := stack.count - inventory.room slot stack.id } further rest after) :
    inventory.Fills stack (slot :: further) rest after := by
  obtain ⟨away, apart⟩ := List.nodup_cons.mp apart
  have others (other : Nat) (listed : other ∈ further) :
      (inventory.filled stack slot).get? other = inventory.get? other :=
    get?_filled_of_ne _ _ fun same => away (same ▸ listed)
  have rooms (other : Nat) (listed : other ∈ further) :
      (inventory.filled stack slot).room other stack.id = inventory.room other stack.id :=
    room_of_get? (size_filled ..) (others other listed) stack.id
  refine ⟨?_, fills.sized.trans (size_filled ..), fun before later behind split => ?_,
    fun other none => ?_⟩
  · rw [fills.rest, roomIn_cons, roomIn_congr rooms, ItemStack.less, ItemStack.less]
    dsimp only
    grind
  · rcases before with _ | ⟨head, before⟩
    · cases split
      rw [fills.others slot away]
      exact get?_filled_self inventory some slot
    · cases split
      have earlier : ∀ other ∈ before, other ∈ before ++ later :: behind :=
        fun _ => List.mem_append_left _
      have listed : later ∈ before ++ later :: behind :=
        List.mem_append_right _ List.mem_cons_self
      have same : (inventory.filled stack slot).share
          { stack with count := stack.count - inventory.room slot stack.id } before later =
            inventory.share stack (slot :: before) later := by
        rw [share, share, roomIn_cons, rooms later listed,
          roomIn_congr fun other among => rooms other (earlier other among), Nat.sub_sub]
      have content : (inventory.filled stack slot).countAt later = inventory.countAt later := by
        rw [countAt, others later listed, countAt]
      rw [fills.shares before later behind rfl, same, enriched, others later listed, content, enriched]
  · rw [fills.others other fun listed => none (List.mem_cons_of_mem _ listed)]
    exact get?_filled_of_ne _ _ fun same => none (same ▸ List.mem_cons_self)

end Fills

/-- Slots that are reached at distances that can be counted are filled one after the other. -/
theorem insertAlong_fills {start : Nat} {distances : List Nat} {stack : ItemStack}
    {inventory : Inventory} (some : 1 ≤ stack.count)
    (countable : ∀ distance ∈ distances, start + distance < word64)
    (apart : (distances.map fun distance => (start + distance) % inventory.size).Nodup) :
    ∃ rest after, insertAlong start distances stack inventory = (.ok rest, after) ∧
      inventory.Fills stack (distances.map fun distance => (start + distance) % inventory.size)
        rest after := by
  induction distances generalizing stack inventory with
  | nil =>
    refine ⟨_, inventory, rfl, ?_, rfl, fun before _ _ split => ?_, fun _ _ => rfl⟩
    · rw [List.map_nil, roomIn_nil, Nat.min_zero, ItemStack.less_of_lt some, Nat.sub_zero]
    · cases before <;> cases split
  | cons distance further ih =>
    have near := countable distance List.mem_cons_self
    rw [List.map_cons] at apart ⊢
    rw [insertAlong, if_neg (Nat.not_le.mpr near), insertInto_filled inventory some, share, roomIn_nil,
      Nat.sub_zero]
    rcases Nat.lt_or_ge (inventory.room ((start + distance) % inventory.size) stack.id) stack.count
      with more | fits
    · rw [Nat.min_eq_left (Nat.le_of_lt more), ItemStack.less_of_lt more]
      let slot := (start + distance) % inventory.size
      have left : 1 ≤ ({ stack with
          count := stack.count - inventory.room slot stack.id } : ItemStack).count :=
        Nat.sub_pos_of_lt more
      have apartThen := (List.nodup_cons.mp apart).2
      rw [← size_filled inventory stack slot] at apartThen
      obtain ⟨rest, after, ended, fills⟩ :=
        ih left (fun _ listed => countable _ (List.mem_cons_of_mem _ listed)) apartThen
      rw [size_filled] at fills
      exact ⟨rest, after, ended, fills.next some apart more⟩
    · rw [Nat.min_eq_right fits, ItemStack.less_of_le (Nat.le_refl _)]
      exact ⟨none, _, rfl, .first some apart fits⟩

/-! ### Once around -/

theorem slotsFrom_nodup (inventory : Inventory) (start : Nat) : (inventory.slotsFrom start).Nodup := by
  refine List.Nodup.map_on (fun first listed second also same => ?_) List.nodup_range
  have near := List.mem_range.mp listed
  have nearToo := List.mem_range.mp also
  exact Nat.ModEq.eq_of_lt_of_lt (Nat.ModEq.add_left_cancel' start same) near nearToo

/-- Every slot is reached once, wherever the round starts. -/
theorem slotsFrom_perm (inventory : Inventory) (start : Nat) :
    (inventory.slotsFrom start).Perm (List.range inventory.size) := by
  have within : inventory.slotsFrom start ⊆ List.range inventory.size := by
    intro slot listed
    obtain ⟨distance, near, rfl⟩ := List.mem_map.mp listed
    exact List.mem_range.mpr (Nat.mod_lt _ (Nat.zero_lt_of_lt (List.mem_range.mp near)))
  have reached := List.subperm_of_subset (slotsFrom_nodup inventory start) within
  exact reached.perm_of_length_le (by rw [slotsFrom, List.length_map])

/-- A slot receives nothing before all slots that come earlier are filled up. -/
theorem share_eq_room {inventory : Inventory} {stack : ItemStack} {before between : List Nat}
    {slot later : Nat} (receives : inventory.share stack (before ++ slot :: between) later ≠ 0) :
    inventory.share stack before slot = inventory.room slot stack.id := by
  have parts : inventory.roomIn stack.id (before ++ slot :: between) =
      inventory.roomIn stack.id before +
        (inventory.room slot stack.id + inventory.roomIn stack.id between) := by
    rw [roomIn, List.map_append, List.sum_append, ← roomIn, ← roomIn, roomIn_cons]
  rw [share, parts] at receives
  rw [share]
  omega

/-- As many items of a stack are stored as all slots have room for, and the rest is answered. In the
order in which the slots are reached every slot receives what is left over from the slots before it, up
to its own room, and a slot that receives nothing keeps its content. -/
theorem stacks_fill_slots_in_turn (inventory : Inventory) {start : Nat}
    (countable : start + inventory.size ≤ word64) {stack : ItemStack} (some : 1 ≤ stack.count) :
    let stored := min stack.count (inventory.roomIn stack.id (List.range inventory.size))
    ∃ after,
      inventory.insertFrom start stack =
        (.ok (if stored < stack.count then Option.some { stack with count := stack.count - stored }
          else none), after) ∧
      after.size = inventory.size ∧
      (inventory.slotsFrom start).Perm (List.range inventory.size) ∧
      (∀ before slot further, inventory.slotsFrom start = before ++ slot :: further →
        after.get? slot = inventory.enriched stack.id slot (inventory.share stack before slot) ∧
        ∀ between later behind, further = between ++ later :: behind →
          inventory.share stack (before ++ slot :: between) later ≠ 0 →
            inventory.share stack before slot = inventory.room slot stack.id) ∧
      ∀ id, after.total id = inventory.total id + if id = stack.id then stored else 0 := by
  have around := slotsFrom_perm inventory start
  have within : ∀ distance ∈ List.range inventory.size, start + distance < word64 :=
    fun distance listed => by
      have near := List.mem_range.mp listed
      omega
  obtain ⟨rest, after, ended, fills⟩ : ∃ rest after,
      inventory.insertFrom start stack = (.ok rest, after) ∧
        inventory.Fills stack (inventory.slotsFrom start) rest after :=
    insertAlong_fills some within (slotsFrom_nodup inventory start)
  intro stored
  have left : rest = stack.less stored := by
    rw [fills.rest, roomIn_of_perm inventory stack.id around]
  refine ⟨after, ?_, fills.sized, around, fun before slot further split => ⟨?_, ?_⟩, fun id => ?_⟩
  · rw [ended, left, ItemStack.less]
  · exact fills.shares before slot further split
  · exact fun _ _ _ _ receives => share_eq_room receives
  · have whole := total_insertFrom ended id
    have parts := countOf_less stack stored (Nat.min_le_left ..) id
    have gained : countOf id (Option.some { stack with count := stored }) =
        if id = stack.id then stored else 0 := by simp only [countOf, eq_comm]
    rw [left] at whole
    rw [← gained]
    omega

/-- Slots of which one holds more than a slot takes, and two have some room for stones. -/
def shelves : Inventory :=
  { slots := [some ⟨"stone", 60⟩, none, some ⟨"dirt", 3⟩, some ⟨"stone", 100⟩, some ⟨"stone", 62⟩] }

/-- From the fourth slot on the round leads around the end. -/
theorem stacks_fill_slots_in_turn_shelves :
    3 + shelves.size ≤ word64 ∧ 1 ≤ (⟨"stone", 40⟩ : ItemStack).count ∧
      shelves.slotsFrom 3 = [3, 4, 0, 1, 2] ∧
      ∃ after, shelves.insertFrom 3 ⟨"stone", 40⟩ = (.ok none, after) ∧
        after.get? 3 = some ⟨"stone", 100⟩ ∧ after.get? 4 = some ⟨"stone", 64⟩ ∧
        after.get? 0 = some ⟨"stone", 64⟩ ∧ after.get? 1 = some ⟨"stone", 34⟩ ∧
        after.get? 2 = some ⟨"dirt", 3⟩ ∧ after.total "stone" = 262 ∧ after.total "dirt" = 3 := by
  have order : shelves.slotsFrom 3 = [3, 4, 0, 1, 2] := by decide
  have countable : 3 + shelves.size ≤ word64 := by decide
  have some : 1 ≤ (⟨"stone", 40⟩ : ItemStack).count := by decide
  obtain ⟨after, ended, _, _, slots, totals⟩ := stacks_fill_slots_in_turn shelves countable some
  rw [order] at slots
  exact ⟨countable, some, order, after, ended, (slots [] 3 [4, 0, 1, 2] rfl).1,
    (slots [3] 4 [0, 1, 2] rfl).1, (slots [3, 4] 0 [1, 2] rfl).1, (slots [3, 4, 0] 1 [2] rfl).1,
    (slots [3, 4, 0, 1] 2 [] rfl).1, totals "stone", totals "dirt"⟩

end Inventory

end TurtleFleet
