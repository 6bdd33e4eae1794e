import TurtleFleet.Fault

/-! Item stacks and the slots that hold them. A slot takes items of one kind only, up to the stack
limit; an inventory may have any number of slots. -/

namespace TurtleFleet

/-- The number of slots of a new inventory, and of the slots that a turtle can select. -/
def slotCount : Nat := 16

/-- The number of items beyond which a slot takes no more. -/
def stackLimit : Nat := 64

structure ItemStack where
  id : String
  count : Nat
deriving DecidableEq, Repr, Inhabited

def ItemStack.single (id : String) : ItemStack := { id, count := 1 }

/-- What is left of a stack after `placed` of its items went elsewhere. -/
def ItemStack.less (stack : ItemStack) (placed : Nat) : Option ItemStack :=
  if placed < stack.count then some { stack with count := stack.count - placed } else none

/-- Slots, each with a stack or empty. -/
structure Inventory where
  slots : List (Option ItemStack) := List.replicate slotCount none
deriving DecidableEq, Repr, Inhabited

namespace Inventory

def size (inventory : Inventory) : Nat := inventory.slots.length

def isEmpty (inventory : Inventory) : Bool := inventory.slots.all Option.isNone

def get? (inventory : Inventory) (slot : Nat) : Option ItemStack := inventory.slots[slot]?.join

/-- Overwrites a slot; a slot that does not exist stays away. -/
def put (inventory : Inventory) (slot : Nat) (content : Option ItemStack) : Inventory :=
  { slots := inventory.slots.set slot content }

/-- Replaces the content of a slot and answers what was there. A stack without items empties the
slot. -/
def set (inventory : Inventory) (slot : Nat) (content : Option ItemStack) :
    Option ItemStack × Inventory :=
  (inventory.get? slot, inventory.put slot (content.filter (0 < ·.count)))

/-- Takes up to `count` items out of a slot. -/
def take (inventory : Inventory) (slot count : Nat) : Option ItemStack × Inventory :=
  match inventory.get? slot with
  | none => (none, inventory)
  | some stack =>
    let taken := min count stack.count
    if taken = 0 then (none, inventory)
    else (some { stack with count := taken }, inventory.put slot (stack.less taken))

/-- How many items of a kind a slot still takes. -/
def room (inventory : Inventory) (slot : Nat) (id : String) : Nat :=
  match inventory.slots[slot]? with
  | none => 0
  | some none => stackLimit
  | some (some held) => if held.id = id then stackLimit - held.count else 0

/-- Puts as many items as fit into one slot and answers the rest. An empty slot takes the kind of
the stack, and so does not stay empty even for a stack without items. -/
def insertInto (inventory : Inventory) (slot : Nat) (stack : ItemStack) :
    Option ItemStack × Inventory :=
  match inventory.slots[slot]? with
  | none => (some stack, inventory)
  | some none =>
    let placed := min stack.count stackLimit
    (stack.less placed, inventory.put slot (some { stack with count := placed }))
  | some (some held) =>
    if held.id = stack.id then
      let placed := min stack.count (stackLimit - held.count)
      (stack.less placed, inventory.put slot (some { held with count := held.count + placed }))
    else (some stack, inventory)

/-- Puts a stack into the slots at the given distances from `start`, wrapping around at the end, and
answers the rest. A distance that leads out of the word is a fault; what was put before stays. -/
def insertAlong (start : Nat) : List Nat → ItemStack → Inventory →
    Except Fault (Option ItemStack) × Inventory
  | [], stack, inventory => (.ok (some stack), inventory)
  | distance :: further, stack, inventory =>
    if word64 ≤ start + distance then (.error (.overflow .add), inventory)
    else
      match inventory.insertInto ((start + distance) % inventory.size) stack with
      | (none, inventory) => (.ok none, inventory)
      | (some rest, inventory) => insertAlong start further rest inventory

/-- Puts a stack into the slots from `start` on, once around, and answers the rest. -/
def insertFrom (inventory : Inventory) (start : Nat) (stack : ItemStack) :
    Except Fault (Option ItemStack) × Inventory :=
  insertAlong start (List.range inventory.size) stack inventory

/-- The occupied slots with their stacks. -/
def occupied (inventory : Inventory) : List (Nat × ItemStack) :=
  inventory.slots.zipIdx.filterMap fun (content, slot) => content.map (slot, ·)

/-- The number of items of a kind in the content of a slot. -/
def countOf (id : String) : Option ItemStack → Nat
  | some stack => if stack.id = id then stack.count else 0
  | none => 0

/-- The number of items of a kind in all slots. -/
def total (inventory : Inventory) (id : String) : Nat :=
  inventory.slots.foldr (fun content rest => countOf id content + rest) 0

@[simp] theorem size_put (inventory : Inventory) (slot : Nat) (content : Option ItemStack) :
    (inventory.put slot content).size = inventory.size := by
  simp [put, size]

@[simp] theorem size_take (inventory : Inventory) (slot count : Nat) :
    (inventory.take slot count).2.size = inventory.size := by
  unfold take
  split
  · rfl
  · dsimp only
    split <;> simp

@[simp] theorem size_insertInto (inventory : Inventory) (slot : Nat) (stack : ItemStack) :
    (inventory.insertInto slot stack).2.size = inventory.size := by
  unfold insertInto
  split
  · rfl
  · simp
  · split <;> simp

end Inventory

end TurtleFleet
