import TurtleFleet.Turtle

/-! What turtles ask of the world around them. A world is any state that answers these calls; every
call may change it, and every call may break off with a fault. -/

namespace TurtleFleet

inductive WorldError where
  | unknownWorld (world : WorldId)
  | occupied (world : WorldId) (pos : BlockPos)
  | notLoaded (world : WorldId) (pos : BlockPos)
  | spawnRejected (reason : String)
deriving DecidableEq, Repr

def WorldError.name : WorldError → String
  | unknownWorld _ => "UnknownWorld"
  | occupied .. => "Occupied"
  | notLoaded .. => "NotLoaded"
  | spawnRejected _ => "SpawnRejected"

def WorldError.message : WorldError → String
  | unknownWorld world => s!"world {world} is unknown"
  | occupied world pos => s!"position {pos.describe} in {world} is occupied"
  | notLoaded world pos => s!"position {pos.describe} in {world} is not loaded"
  | spawnRejected reason => s!"spawn rejected: {reason}"

inductive WorldCall where
  | isLoaded (world : WorldId) (pos : BlockPos)
  | isInBounds (world : WorldId) (pos : BlockPos)
  | block (world : WorldId) (pos : BlockPos)
  /-- Whether the owner of a turtle may neither change nor enter the place. -/
  | isProtected (world : WorldId) (pos : BlockPos) (owner : Option Owner)
  | setBlock (world : WorldId) (pos : BlockPos) (block : Block)
  /-- A new entity that continues the turtle of the template. -/
  | spawn (world : WorldId) (pos : BlockPos) (template : TurtleSnapshot)
  | remove (world : WorldId) (pos : BlockPos)
deriving DecidableEq, Repr

namespace WorldCall

abbrev Reply : WorldCall → Type
  | isLoaded .. => Bool
  | isInBounds .. => Bool
  | block .. => Block
  | isProtected .. => Bool
  | setBlock .. => Except WorldError Unit
  | spawn .. => Except WorldError EntityRef
  | remove .. => Unit

/-- Whether the call did what it asks for; a question is always answered. -/
def fulfilled : (call : WorldCall) → call.Reply → Bool
  | setBlock .., reply => reply.isOk
  | spawn .., reply => reply.isOk
  | isLoaded .., _ => true
  | isInBounds .., _ => true
  | block .., _ => true
  | isProtected .., _ => true
  | remove .., _ => true

def isEdit : WorldCall → Bool
  | setBlock .. | spawn .. | remove .. => true
  | _ => false

end WorldCall

/-- A state that answers world calls. It is told which turtles are being moved, so that it can leave
them alone. -/
class World (W : Type) where
  answer : (call : WorldCall) → (movers : List TurtleId) → W → Except Fault call.Reply × W

end TurtleFleet
