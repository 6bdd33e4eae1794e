/-! The things a turtle can be seen doing for several ticks. `none` is the idle turtle, and the four
movement kinds are the ones during which its entity must stay where it is. -/

namespace TurtleFleet

/-- What a turtle is shown doing. -/
inductive AnimationKind where
  | none
  | moveForward
  | moveBack
  | moveUp
  | moveDown
  | turnLeft
  | turnRight
  | swingLeftTool
  | swingRightTool
  | wait
  | shortWait
deriving DecidableEq, Repr, Inhabited

namespace AnimationKind

def all : List AnimationKind :=
  [none, moveForward, moveBack, moveUp, moveDown, turnLeft, turnRight, swingLeftTool,
    swingRightTool, wait, shortWait]

theorem mem_all (kind : AnimationKind) : kind ∈ all := by
  cases kind <;> decide

def name : AnimationKind → String
  | none => "none"
  | moveForward => "move_forward"
  | moveBack => "move_back"
  | moveUp => "move_up"
  | moveDown => "move_down"
  | turnLeft => "turn_left"
  | turnRight => "turn_right"
  | swingLeftTool => "swing_left_tool"
  | swingRightTool => "swing_right_tool"
  | wait => "wait"
  | shortWait => "short_wait"

/-- The name of a kind in the text of a fault. -/
def title : AnimationKind → String
  | none => "None"
  | moveForward => "MoveForward"
  | moveBack => "MoveBack"
  | moveUp => "MoveUp"
  | moveDown => "MoveDown"
  | turnLeft => "TurnLeft"
  | turnRight => "TurnRight"
  | swingLeftTool => "SwingLeftTool"
  | swingRightTool => "SwingRightTool"
  | wait => "Wait"
  | shortWait => "ShortWait"

/-- A movement animation plays while the turtle's entity has just changed its place. -/
def isMovement : AnimationKind → Bool
  | moveForward | moveBack | moveUp | moveDown => true
  | _ => false

end AnimationKind

end TurtleFleet
