import TurtleFleet.Command.Standard

/-! What a turtle does with the blocks within its reach. -/

namespace TurtleFleet

/-- The message when items that a command takes up have nowhere to go. -/
def noSpace : String := "No space for items"

def Turtle.canDig (turtle : Turtle) (side : Side) : Bool :=
  (turtle.equipment.get? side).any (·.canDig)

/-- The side that digs: the requested one if it can, or else the right one before the left one. -/
def Turtle.diggingSide? (turtle : Turtle) : Option Side → Option Side
  | some side => if turtle.canDig side then some side else none
  | none => [Side.right, Side.left].find? turtle.canDig

def Side.swing : Side → AnimationKind
  | .left => .swingLeftTool
  | .right => .swingRightTool

namespace Action

variable {W : Type} [World W]

/-- The inventory after a stack was put into it from a slot on; a rest rejects the command. -/
def stow (inventory : Inventory) (start : Nat) (stack : ItemStack) : Action W Inventory := do
  let (rest, inventory) := inventory.insertFrom start stack
  if (← attempt rest).isSome then reject noSpace
  return inventory

/-- Digs out a block and keeps it as an item. -/
def dig (direction : ReachDirection) (side : Option Side) : Action W (List Json) := do
  let turtle ← turtle
  let some side := turtle.diggingSide? side | reject "No tool to dig with"
  let world := turtle.world
  let target := direction.target turtle
  let block ← block world target
  if block.isPassable then reject "Nothing to dig here"
  if block.kind = .unbreakable ∨ block.kind = .turtle then reject "Unbreakable block detected"
  if ← isProtected world target then reject "Cannot break protected block"
  let inventory ← stow turtle.inventory turtle.selectedSlot (.single block.id)
  writeBlock world target .air
  setInventory inventory
  beginAnimation side.swing
  return []

/-- Whether a block may be placed: the place is loaded, in bounds, passable and not protected. A
check that fails spares the later ones. -/
def isPlaceable (world : WorldId) (pos : BlockPos) : Action W Bool := do
  unless ← isLoaded world pos do return false
  unless ← isInBounds world pos do return false
  unless (← block world pos).isPassable do return false
  return !(← isProtected world pos)

/-- Places an item of the selected slot as a block. -/
def place (direction : ReachDirection) : Action W (List Json) := do
  let turtle ← turtle
  let slot := turtle.selectedSlot
  let some stack := turtle.inventory.get? slot | reject "No items to place"
  let world := turtle.world
  let target := direction.target turtle
  unless ← isPlaceable world target do reject "Cannot place block here"
  writeBlock world target (.solid stack.id)
  modifyTurtle fun turtle => { turtle with inventory := (turtle.inventory.take slot 1).2 }
  beginAnimation .wait
  return []

/-- Tells whether something is in the way. -/
def detect (direction : ReachDirection) : Action W (List Json) := do
  let turtle ← turtle
  let block ← block turtle.world (direction.target turtle)
  return [.bool (!block.isPassable)]

def inspect (direction : ReachDirection) : Action W (List Json) := do
  let turtle ← turtle
  let block ← block turtle.world (direction.target turtle)
  if block.isAir then reject "No block to inspect"
  return [.obj [("name", .str block.id), ("kind", .str block.kind.name)]]

end Action

end TurtleFleet
