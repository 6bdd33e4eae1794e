import TurtleFleet.Keyed
import TurtleFleet.World.Calls

/-! A world held in memory: several dimensions, each with bounds, loaded chunks, blocks over a flat
floor, protected places and entities. -/

namespace TurtleFleet

/-- The limits within which turtles may be. -/
structure WorldBounds where
  minY : Int32 := -64
  maxY : Int32 := 319
  /-- The distance from the middle that both horizontal coordinates stay below. -/
  border : Int32 := 29999984
deriving DecidableEq, Repr, Inhabited

/-- Whether a position lies within the bounds. -/
def WorldBounds.contains (bounds : WorldBounds) (pos : BlockPos) : Bool :=
  bounds.minY ≤ pos.y && pos.y ≤ bounds.maxY
    && pos.x.toInt.natAbs < bounds.border.toInt.natAbs
    && pos.z.toInt.natAbs < bounds.border.toInt.natAbs

structure EntityRecord where
  serial : Nat
  kind : EntityKind
  template : TurtleSnapshot
deriving DecidableEq, Repr

structure Dimension where
  bounds : WorldBounds := {}
  loaded : ChunkPos → Bool := fun _ => false
  /-- The blocks that were written. -/
  blocks : BlockPos → Option Block := fun _ => none
  /-- At this height and below, an unwritten place shows this block. -/
  floor : Option (Int32 × Block) := none
  entities : List (BlockPos × EntityRecord) := []
  isProtected : BlockPos → Bool := fun _ => false

namespace Dimension

def isLoaded (dimension : Dimension) (pos : BlockPos) : Bool := dimension.loaded pos.chunk

def entityAt? (dimension : Dimension) (pos : BlockPos) : Option EntityRecord :=
  dimension.entities.lookup pos

/-- The block that lies at a place, entities left aside. -/
def terrain (dimension : Dimension) (pos : BlockPos) : Block :=
  match dimension.blocks pos with
  | some block => block
  | none =>
    match dimension.floor with
    | some (height, block) => if pos.y ≤ height then block else .air
    | none => .air

/-- The block that is seen at a place; an entity hides what lies there. -/
def block (dimension : Dimension) (pos : BlockPos) : Block :=
  if (dimension.entityAt? pos).isSome then .turtle else dimension.terrain pos

def write (dimension : Dimension) (pos : BlockPos) (block : Block) : Dimension :=
  { dimension with
    blocks := fun other => if other = pos then some block else dimension.blocks other }

def setLoaded (dimension : Dimension) (chunk : ChunkPos) (isLoaded : Bool) : Dimension :=
  { dimension with
    loaded := fun other => if other = chunk then isLoaded else dimension.loaded other }

def protect (dimension : Dimension) (pos : BlockPos) : Dimension :=
  { dimension with
    isProtected := fun other => if other = pos then true else dimension.isProtected other }

def addEntity (dimension : Dimension) (pos : BlockPos) (record : EntityRecord) : Dimension :=
  { dimension with entities := (pos, record) :: dimension.entities }

def removeEntity (dimension : Dimension) (pos : BlockPos) : Dimension :=
  { dimension with entities := dimension.entities.filter (·.1 ≠ pos) }

end Dimension

/-- A world held in memory. -/
structure MemoryWorld where
  dimensions : Keyed Dimension := .empty
  /-- The serial of the entity spawned last. -/
  lastSerial : Nat := 0
  spawnCalls : Nat := 0
  removeCalls : Nat := 0
  /-- The next spawn fails with this error. -/
  nextSpawnError : Option WorldError := none
  /-- The next entity is of this kind instead of a turtle. -/
  nextSpawnKind : Option EntityKind := none
deriving Inhabited

namespace MemoryWorld

/-- Sets the bounds of a dimension; one that does not exist yet is made. -/
def addWorld (memory : MemoryWorld) (world : WorldId) (bounds : WorldBounds) : MemoryWorld :=
  let dimension := (memory.dimensions.get? world).getD {}
  { memory with dimensions := memory.dimensions.insert world { dimension with bounds } }

def change (memory : MemoryWorld) (world : WorldId) (f : Dimension → Dimension) : MemoryWorld :=
  { memory with dimensions := memory.dimensions.adjust world f }

def loadChunk (memory : MemoryWorld) (world : WorldId) (chunk : ChunkPos) : MemoryWorld :=
  memory.change world (·.setLoaded chunk true)

def unloadChunk (memory : MemoryWorld) (world : WorldId) (chunk : ChunkPos) : MemoryWorld :=
  memory.change world (·.setLoaded chunk false)

/-- Writes a block, loaded or not. -/
def putBlock (memory : MemoryWorld) (world : WorldId) (pos : BlockPos) (block : Block) :
    MemoryWorld :=
  memory.change world (·.write pos block)

def protect (memory : MemoryWorld) (world : WorldId) (pos : BlockPos) : MemoryWorld :=
  memory.change world (·.protect pos)

def failNextSpawn (memory : MemoryWorld) (error : WorldError) : MemoryWorld :=
  { memory with nextSpawnError := some error }

def spawnNextAs (memory : MemoryWorld) (kind : EntityKind) : MemoryWorld :=
  { memory with nextSpawnKind := some kind }

/-- A flat dimension: loaded around the origin, with a floor. The radius has to have a negative. -/
def flat (world : WorldId) (radius : Int32) (floorY : Int32) (floor : Block) :
    Except Fault MemoryWorld :=
  if radius.toInt = -signed32 then .error (.overflow .negate)
  else
    let loaded (chunk : ChunkPos) : Bool :=
      chunk.x.toInt.natAbs ≤ radius.toInt && chunk.z.toInt.natAbs ≤ radius.toInt
    let dimension : Dimension := { loaded, floor := some (floorY, floor) }
    .ok { dimensions := Keyed.empty.insert world dimension }

def entityAt? (memory : MemoryWorld) (world : WorldId) (pos : BlockPos) : Option EntityRecord :=
  (memory.dimensions.get? world).bind (·.entityAt? pos)

def entityCount (memory : MemoryWorld) : Nat :=
  memory.dimensions.values.foldr (fun dimension count => dimension.entities.length + count) 0

def isLoaded (memory : MemoryWorld) (world : WorldId) (pos : BlockPos) : Bool :=
  (memory.dimensions.get? world).any (·.isLoaded pos)

def isInBounds (memory : MemoryWorld) (world : WorldId) (pos : BlockPos) : Bool :=
  (memory.dimensions.get? world).any (·.bounds.contains pos)

def block (memory : MemoryWorld) (world : WorldId) (pos : BlockPos) : Block :=
  ((memory.dimensions.get? world).map (·.block pos)).getD .air

/-- Whether a place is protected, against any owner. -/
def isProtected (memory : MemoryWorld) (world : WorldId) (pos : BlockPos) : Bool :=
  (memory.dimensions.get? world).any (·.isProtected pos)

def loadedDimension (memory : MemoryWorld) (world : WorldId) (pos : BlockPos) :
    Except WorldError Dimension :=
  match memory.dimensions.get? world with
  | none => .error (.unknownWorld world)
  | some dimension =>
    if dimension.isLoaded pos then .ok dimension else .error (.notLoaded world pos)

def setBlock (memory : MemoryWorld) (world : WorldId) (pos : BlockPos) (block : Block) :
    Except WorldError Unit × MemoryWorld :=
  match memory.loadedDimension world pos with
  | .error error => (.error error, memory)
  | .ok _ => (.ok (), memory.putBlock world pos block)

/-- Makes an entity from a template. An armed error comes first; a place takes one entity. -/
def spawn (memory : MemoryWorld) (world : WorldId) (pos : BlockPos) (template : TurtleSnapshot) :
    Except WorldError EntityRef × MemoryWorld :=
  let memory := { memory with spawnCalls := memory.spawnCalls + 1 }
  match memory.nextSpawnError with
  | some error => (.error error, { memory with nextSpawnError := none })
  | none =>
    match memory.loadedDimension world pos with
    | .error error => (.error error, memory)
    | .ok dimension =>
      if (dimension.entityAt? pos).isSome then (.error (.occupied world pos), memory)
      else
        let serial := memory.lastSerial + 1
        let kind := memory.nextSpawnKind.getD .turtle
        let memory := memory.change world (·.addEntity pos { serial, kind, template })
        (.ok { world, pos, kind, serial },
          { memory with lastSerial := serial, nextSpawnKind := none })

def remove (memory : MemoryWorld) (world : WorldId) (pos : BlockPos) : MemoryWorld :=
  { memory.change world (·.removeEntity pos) with removeCalls := memory.removeCalls + 1 }

end MemoryWorld

instance : World MemoryWorld where
  answer call _ memory :=
    match call with
    | .isLoaded world pos => (.ok (memory.isLoaded world pos), memory)
    | .isInBounds world pos => (.ok (memory.isInBounds world pos), memory)
    | .block world pos => (.ok (memory.block world pos), memory)
    | .isProtected world pos _ => (.ok (memory.isProtected world pos), memory)
    | .setBlock world pos block =>
      let (reply, memory) := memory.setBlock world pos block
      (.ok reply, memory)
    | .spawn world pos template =>
      let (reply, memory) := memory.spawn world pos template
      (.ok reply, memory)
    | .remove world pos => (.ok (), memory.remove world pos)

end TurtleFleet
