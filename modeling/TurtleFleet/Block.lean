/-! Blocks, and who may touch them. -/

namespace TurtleFleet

abbrev TurtleId := String

abbrev WorldId := String

/-- What a block is made of, as far as turtles care. -/
inductive BlockKind where
  | air
  | liquid
  | solid
  | unbreakable
  | turtle
deriving DecidableEq, Repr, Inhabited

namespace BlockKind

def all : List BlockKind := [air, liquid, solid, unbreakable, turtle]

def name : BlockKind → String
  | air => "air"
  | liquid => "liquid"
  | solid => "solid"
  | unbreakable => "unbreakable"
  | turtle => "turtle"

end BlockKind

/-- A block: its item id and its kind. -/
structure Block where
  id : String
  kind : BlockKind
deriving DecidableEq, Repr, Inhabited

namespace Block

def air : Block := { id := "air", kind := .air }

def solid (id : String) : Block := { id, kind := .solid }

def turtle : Block := { id := "turtle", kind := .turtle }

/-- Air and liquids can be moved through and replaced. -/
def isPassable (block : Block) : Bool := block.kind = .air || block.kind = .liquid

def isAir (block : Block) : Bool := block.kind = .air

end Block

/-- The player who placed a turtle; only asked about when a place is protected. -/
structure Owner where
  playerId : String
  name : String
deriving DecidableEq, Repr

end TurtleFleet
