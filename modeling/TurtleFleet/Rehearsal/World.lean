import TurtleFleet.World.Memory

/-! A world for rehearsals: a world in memory in which the next calls can be made to go wrong, and
in which protection can be lifted for some owners. -/

namespace TurtleFleet

/-- A kind of call that changes a world. -/
inductive Edit where
  | spawn
  | setBlock
  | remove
deriving DecidableEq, Repr

namespace Edit

def all : List Edit := [spawn, setBlock, remove]

def name : Edit → String
  | spawn => "spawn"
  | setBlock => "set_block"
  | remove => "remove"

/-- The kind of a call, unless it only asks. -/
def ofCall? : WorldCall → Option Edit
  | .spawn .. => some spawn
  | .setBlock .. => some setBlock
  | .remove .. => some remove
  | _ => none

end Edit

structure RehearsalWorld where
  memory : MemoryWorld
  /-- The texts with which the next calls of a kind break off. -/
  breaking : List (Edit × String) := []
  /-- The next write is refused with this error. -/
  nextWriteError : Option WorldError := none
  /-- The next entity is said to be in another world or at another place. -/
  misplacement : Option (Option WorldId × Option BlockPos) := none
  /-- The players to whose turtles no place is protected. -/
  allowed : List String := []

namespace RehearsalWorld

/-- Makes the next call of a kind break off. -/
def breakNext (world : RehearsalWorld) (edit : Edit) (text : String) : RehearsalWorld :=
  { world with breaking := (edit, text) :: world.breaking.filter (·.1 ≠ edit) }

/-- Changes the world in memory behind the back of the fleet. -/
def changeMemory (world : RehearsalWorld) (f : MemoryWorld → MemoryWorld) : RehearsalWorld :=
  { world with memory := f world.memory }

/-- Whether a place is protected against an owner. -/
def isProtected (world : RehearsalWorld) (dimension : WorldId) (pos : BlockPos)
    (owner : Option Owner) : Bool :=
  world.memory.isProtected dimension pos
    && !owner.any fun owner => world.allowed.contains owner.playerId

def setBlock (world : RehearsalWorld) (dimension : WorldId) (pos : BlockPos) (block : Block) :
    Except WorldError Unit × RehearsalWorld :=
  match world.nextWriteError with
  | some error => (.error error, { world with nextWriteError := none })
  | none =>
    let (reply, memory) := world.memory.setBlock dimension pos block
    (reply, { world with memory })

def spawn (world : RehearsalWorld) (dimension : WorldId) (pos : BlockPos)
    (template : TurtleSnapshot) : Except WorldError EntityRef × RehearsalWorld :=
  let (reply, memory) := world.memory.spawn dimension pos template
  let world := { world with memory }
  match reply, world.misplacement with
  | .ok entity, some (otherWorld, otherPos) =>
    (.ok { entity with world := otherWorld.getD entity.world, pos := otherPos.getD entity.pos },
      { world with misplacement := none })
  | reply, _ => (reply, world)

/-- The answer to a call that does not break off. -/
def reply (world : RehearsalWorld) : (call : WorldCall) → call.Reply × RehearsalWorld
  | .isLoaded dimension pos => (world.memory.isLoaded dimension pos, world)
  | .isInBounds dimension pos => (world.memory.isInBounds dimension pos, world)
  | .block dimension pos => (world.memory.block dimension pos, world)
  | .isProtected dimension pos owner => (world.isProtected dimension pos owner, world)
  | .setBlock dimension pos block => world.setBlock dimension pos block
  | .spawn dimension pos template => world.spawn dimension pos template
  | .remove dimension pos => ((), world.changeMemory (·.remove dimension pos))

end RehearsalWorld

instance : World RehearsalWorld where
  answer call _ world :=
    match (Edit.ofCall? call).bind fun edit => (world.breaking.lookup edit).map (edit, ·) with
    | some (edit, text) =>
      (.error (.raised text), { world with breaking := world.breaking.filter (·.1 ≠ edit) })
    | none =>
      let (reply, world) := world.reply call
      (.ok reply, world)

end TurtleFleet
