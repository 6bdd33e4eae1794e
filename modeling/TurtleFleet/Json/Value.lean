/-! JSON values. Whole numbers and floating-point numbers are kept apart, as they are written
differently; a floating-point number is held by its bits. -/

namespace TurtleFleet

inductive Json where
  | null
  | bool (value : Bool)
  /-- A whole number written without fraction and exponent. -/
  | int (value : Int)
  /-- A binary64 number, by its bits. -/
  | float (bits : UInt64)
  | str (value : String)
  | arr (items : List Json)
  | obj (fields : List (String × Json))
deriving BEq, Repr, Inhabited

namespace Json

/-- Gives a name its value; an earlier value of the same name is replaced. -/
def setField (name : String) (value : Json) : List (String × Json) → List (String × Json)
  | [] => [(name, value)]
  | (other, old) :: rest =>
    if other = name then (name, value) :: rest else (other, old) :: setField name value rest

def field? (name : String) : Json → Option Json
  | obj fields => fields.lookup name
  | _ => none

mutual

/-- How deep containers are nested in a value. -/
def depth : Json → Nat
  | arr items => depthOfItems items + 1
  | obj fields => depthOfFields fields + 1
  | _ => 0

def depthOfItems : List Json → Nat
  | [] => 0
  | item :: rest => max (depth item) (depthOfItems rest)

def depthOfFields : List (String × Json) → Nat
  | [] => 0
  | (_, value) :: rest => max (depth value) (depthOfFields rest)

end

/-- Whether an object has the name, with whatever value. -/
def hasField (name : String) (json : Json) : Bool := (json.field? name).isSome

end Json

instance : Coe Bool Json := ⟨Json.bool⟩
instance : Coe String Json := ⟨Json.str⟩
instance : Coe Int Json := ⟨Json.int⟩
instance : Coe Nat Json := ⟨fun n => Json.int n⟩

/-- An optional value; null stands for its absence. -/
def Json.optional (value : Option Json) : Json := value.getD .null

end TurtleFleet
