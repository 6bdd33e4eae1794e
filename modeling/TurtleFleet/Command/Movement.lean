import TurtleFleet.Command.Standard

/-! Moving and turning. Relocation is the one way in which a turtle changes its place: a new entity is
made at the target from a snapshot of the turtle, and the old one is removed. Until the new entity is
known to be right the turtle is left as it was. -/

namespace TurtleFleet.Action

variable {W : Type} [World W]

/-- Whether an entity is a turtle at exactly the given place. -/
def isTurtleAt (entity : EntityRef) (world : WorldId) (pos : BlockPos) : Bool :=
  entity.kind = .turtle && entity.world = world && entity.pos = pos

theorem isTurtleAt_iff {entity : EntityRef} {world : WorldId} {pos : BlockPos} :
    isTurtleAt entity world pos = true ↔
      entity.kind = .turtle ∧ entity.world = world ∧ entity.pos = pos := by
  simp [isTurtleAt, and_assoc]

/-- Replaces the entity of the turtle by a new one at the target; a new entity of the wrong kind or
in the wrong place is discarded. -/
def replaceEntity (world : WorldId) (pos : BlockPos) : Action W Bool := do
  match ← spawn world pos (← turtle).snapshot with
  | .error _ => return false
  | .ok entity =>
    if isTurtleAt entity world pos then
      let previous := (← turtle).entity
      modifyTurtle ({ · with entity })
      remove previous.world previous.pos
      return true
    else
      remove entity.world entity.pos
      return false

/-- Moves the turtle to a place and answers whether it is there. A place that is not loaded or out
of bounds is refused, and so is a relocation inside a relocation. -/
def relocate (world : WorldId) (pos : BlockPos) : Action W Bool := do
  let turtle ← turtle
  if turtle.world = world ∧ turtle.pos = pos then return true
  unless ← isLoaded world pos do return false
  unless ← isInBounds world pos do return false
  if turtle.animation.kind.isMovement then throw (.fault .relocatedMidMove)
  if turtle.latch then return false
  latched (replaceEntity world pos)

def moveCost : Nat := 1

/-- Why a step beyond the bounds is refused. -/
def beyondBounds : MoveDirection → String
  | .up => "Too high to move"
  | .down => "Too low to move"
  | .forward | .back => "Cannot pass the world border"

/-- Moves one step. The checks are made in the order in which their messages win. -/
def move (direction : MoveDirection) : Action W (List Json) := do
  let turtle ← turtle
  let world := turtle.world
  let target := direction.target turtle.facing turtle.pos
  unless ← isInBounds world target do reject (beyondBounds direction)
  unless ← isLoaded world target do reject "Cannot leave loaded world"
  unless (← block world target).isPassable do reject "Movement obstructed"
  if ← isProtected world target then reject "Cannot enter protected area"
  unless turtle.fuel.has moveCost do reject "Out of fuel"
  unless ← relocate world target do reject "Cannot leave loaded world"
  modifyTurtle fun turtle => { turtle with fuel := (turtle.fuel.consume moveCost).2 }
  beginAnimation direction.animation
  return []

def turn (direction : TurnDirection) : Action W (List Json) := do
  modifyTurtle fun turtle => { turtle with facing := direction.turn turtle.facing }
  beginAnimation direction.animation
  return []

end TurtleFleet.Action
