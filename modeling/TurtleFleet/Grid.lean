import TurtleFleet.Fault

/-! The block grid: positions, the four horizontal facings, and the columns of 16 by 16 blocks that
are loaded together. Coordinates are 32-bit words, and moving along an axis stops at their ends. -/

namespace TurtleFleet

/-- The coordinate `distance` further along its axis, held at the ends of the word. -/
def advance (coordinate : Int32) (distance : Int) : Int32 :=
  Int32.ofIntClamp (coordinate.toInt + distance)

structure BlockPos where
  x : Int32
  y : Int32
  z : Int32
deriving DecidableEq, Repr, Inhabited

namespace BlockPos

def offset (pos : BlockPos) (dx dy dz : Int) : BlockPos :=
  { x := advance pos.x dx, y := advance pos.y dy, z := advance pos.z dz }

def up (pos : BlockPos) : BlockPos := pos.offset 0 1 0

def down (pos : BlockPos) : BlockPos := pos.offset 0 (-1) 0

/-- Positions are ordered by `x`, then `y`, then `z`. -/
def order (first second : BlockPos) : Ordering :=
  (compare first.x second.x).then ((compare first.y second.y).then (compare first.z second.z))

/-- The text of a position inside a message. -/
def describe (pos : BlockPos) : String :=
  s!"BlockPos \x7b x: {pos.x.toInt}, y: {pos.y.toInt}, z: {pos.z.toInt} \x7d"

end BlockPos

/-- The horizontal direction in which a turtle looks. -/
inductive Facing where
  | north
  | east
  | south
  | west
deriving DecidableEq, Repr, Inhabited

namespace Facing

def all : List Facing := [north, east, south, west]

def name : Facing → String
  | north => "north"
  | east => "east"
  | south => "south"
  | west => "west"

def turnLeft : Facing → Facing
  | north => west
  | west => south
  | south => east
  | east => north

def turnRight : Facing → Facing
  | north => east
  | east => south
  | south => west
  | west => north

def opposite (facing : Facing) : Facing := facing.turnLeft.turnLeft

/-- The unit step on the x and z axes; north is towards negative z. -/
def delta : Facing → Int × Int
  | north => (0, -1)
  | east => (1, 0)
  | south => (0, 1)
  | west => (-1, 0)

/-- The neighbouring position in the direction of the facing. -/
def step (facing : Facing) (pos : BlockPos) : BlockPos :=
  pos.offset facing.delta.1 0 facing.delta.2

end Facing

/-- A column of blocks that is loaded or unloaded as a unit. -/
structure ChunkPos where
  x : Int32
  z : Int32
deriving DecidableEq, Repr, Inhabited

/-- The width of a chunk on either horizontal axis. -/
def chunkWidth : Int := 16

/-- The chunk that holds a position: both horizontal coordinates divided towards negative
infinity. -/
def BlockPos.chunk (pos : BlockPos) : ChunkPos :=
  { x := Int32.ofInt (pos.x.toInt / chunkWidth), z := Int32.ofInt (pos.z.toInt / chunkWidth) }

/-- The first coordinate of a chunk on one axis; it may lie outside the word. -/
def chunkStart (coordinate : Int32) : Except Fault Int32 :=
  let start := coordinate.toInt * chunkWidth
  if -signed32 ≤ start ∧ start < signed32 then .ok (Int32.ofInt start)
  else .error (.overflow .multiply)

/-- The corner of a chunk with the least coordinates, at height `y`. -/
def ChunkPos.minBlock (chunk : ChunkPos) (y : Int32) : Except Fault BlockPos := do
  let x ← chunkStart chunk.x
  let z ← chunkStart chunk.z
  return { x, y, z }

end TurtleFleet
