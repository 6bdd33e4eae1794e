import TurtleFleet.Command.Action

/-! The commands that every turtle understands. -/

namespace TurtleFleet

inductive MoveDirection where
  | forward
  | back
  | up
  | down
deriving DecidableEq, Repr

namespace MoveDirection

def all : List MoveDirection := [forward, back, up, down]

def name : MoveDirection → String
  | forward => "forward"
  | back => "back"
  | up => "up"
  | down => "down"

def animation : MoveDirection → AnimationKind
  | forward => .moveForward
  | back => .moveBack
  | up => .moveUp
  | down => .moveDown

/-- The place one step away. -/
def target (direction : MoveDirection) (facing : Facing) (pos : BlockPos) : BlockPos :=
  match direction with
  | forward => facing.step pos
  | back => facing.opposite.step pos
  | up => pos.up
  | down => pos.down

end MoveDirection

inductive TurnDirection where
  | left
  | right
deriving DecidableEq, Repr

namespace TurnDirection

def all : List TurnDirection := [left, right]

def name : TurnDirection → String
  | left => "left"
  | right => "right"

def animation : TurnDirection → AnimationKind
  | left => .turnLeft
  | right => .turnRight

def turn (direction : TurnDirection) (facing : Facing) : Facing :=
  match direction with
  | left => facing.turnLeft
  | right => facing.turnRight

end TurnDirection

inductive ReachDirection where
  | front
  | up
  | down
deriving DecidableEq, Repr

namespace ReachDirection

def all : List ReachDirection := [front, up, down]

def name : ReachDirection → String
  | front => "front"
  | up => "up"
  | down => "down"

/-- The place within reach in a direction. -/
def target (direction : ReachDirection) (turtle : Turtle) : BlockPos :=
  match direction with
  | front => turtle.facing.step turtle.pos
  | up => turtle.pos.up
  | down => turtle.pos.down

end ReachDirection

inductive TurtleCommand where
  | move (direction : MoveDirection)
  | turn (direction : TurnDirection)
  /-- Digs with the tool on the given side, or on any side. -/
  | dig (direction : ReachDirection) (side : Option Side)
  | place (direction : ReachDirection)
  | detect (direction : ReachDirection)
  | inspect (direction : ReachDirection)
  | select (slot : Nat)
  /-- Burns up to so many items of the selected slot. -/
  | refuel (limit : Nat)
  /-- Moves up to so many items from the selected slot into another one. -/
  | transferTo (slot count : Nat)
  /-- Exchanges the upgrade of a side with the selected slot. -/
  | equip (side : Side)
  | getFuelLevel
deriving DecidableEq, Repr

def TurtleCommand.name : TurtleCommand → String
  | move direction => direction.name
  | turn .left => "turn_left"
  | turn .right => "turn_right"
  | dig .. => "dig"
  | place _ => "place"
  | detect _ => "detect"
  | inspect _ => "inspect"
  | select _ => "select"
  | refuel _ => "refuel"
  | transferTo .. => "transfer_to"
  | equip _ => "equip"
  | getFuelLevel => "get_fuel_level"

end TurtleFleet
