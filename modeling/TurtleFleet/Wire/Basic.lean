import TurtleFleet.Fault
import TurtleFleet.Json.Value
import TurtleFleet.Keyed

/-! The JSON forms of values. Records are objects, of which unknown fields are ignored, or arrays of
the field values in order. Kinds are names. Choices are a tag with its content. Whole numbers have
to fit their word. -/

namespace TurtleFleet

/-- A type whose values have a JSON form. -/
class Wire (α : Type) where
  encode : α → Json
  decode? : Json → Option α

namespace Wire

/-! ### Plain values -/

/-- Reads a whole number between two bounds, the upper one excluded. -/
def number? (lower upper : Int) : Json → Option Int
  | .int value => if lower ≤ value ∧ value < upper then some value else none
  | _ => none

/-- Reads a count below the bound of its word. -/
def count? (bound : Nat) (json : Json) : Option Nat := (number? 0 bound json).map Int.toNat

instance : Wire Json where
  encode json := json
  decode? json := some json

instance : Wire Bool where
  encode value := .bool value
  decode?
    | .bool value => some value
    | _ => none

def text? : Json → Option String
  | .str value => some value
  | _ => none

instance : Wire String where
  encode value := .str value
  decode? := text?

instance : Wire Int32 where
  encode value := .int value.toInt
  decode? json := (number? (-signed32) signed32 json).map Int32.ofInt

/-- The absence of a value is written as null. -/
instance {α : Type} [Wire α] : Wire (Option α) where
  encode value := Json.optional (value.map encode)
  decode?
    | .null => some none
    | json => (decode? json).map some

/-- Reads every item of an array. -/
def items? {α : Type} (item : Json → Option α) : Json → Option (List α)
  | .arr items => items.mapM item
  | _ => none

instance {α : Type} [Wire α] : Wire (List α) where
  encode values := .arr (values.map encode)
  decode? := items? decode?

/-- Reads the value of every field of an object. -/
def fields? {α : Type} (value : Json → Option α) : Json → Option (Keyed α)
  | .obj fields =>
    (fields.mapM fun field : String × Json => (value field.2).map (field.1, ·)).map Keyed.ofList
  | _ => none

/-! ### Kinds and choices -/

/-- Reads a name: a string, or an object that gives null to the name and nothing else. -/
def name? : Json → Option String
  | .str name => some name
  | .obj [(name, .null)] => some name
  | _ => none

/-- Reads one of the given kinds by its name. -/
def kind? {α : Type} (all : List α) (name : α → String) (json : Json) : Option α :=
  (name? json).bind fun text => all.find? (name · = text)

/-- The form of a type whose values have names. -/
abbrev ofNames {α : Type} (all : List α) (name : α → String) : Wire α where
  encode value := .str (name value)
  decode? := kind? all name

/-- Writes a tag, with its content if it has any. -/
def tagged (tag : String) (content : Option Json) : Json :=
  .obj (("type", .str tag) :: content.toList.map ("data", ·))

/-- Gives null instead of an empty object to a name. -/
def nameWithNull : Json → Json
  | .obj [(name, .obj [])] => .obj [(name, .null)]
  | json => json

/-- The content beside a tag. There an empty object behind the name of a kind is as good as null,
whether the kind is the content or a field of it. -/
def besideTag (content : Json) : Json :=
  match nameWithNull content with
  | .obj fields => .obj (fields.map fun field => (field.1, nameWithNull field.2))
  | content => content

/-- Reads a tag and its content. In an array the tag has to be a string. -/
def tagged? : Json → Option (String × Option Json)
  | .arr [tag, content] => (text? tag).map (·, some content)
  | json => do
    let tag ← (← json.field? "type") |> name?
    return (tag, (json.field? "data").map besideTag)

/-- Whether a content is as good as none. -/
def isVoid : Option Json → Bool
  | none | some .null => true
  | some _ => false

/-- The report of an error: the name of its kind and its text. -/
def errorReport (name message : String) : Json :=
  .obj [("error", .str name), ("message", .str message)]

/-- The report of an input that cannot be read. -/
def unreadable : Json := .obj [("error", .str "Deserialize")]

/-- Reads one field of an object; a field that is missing is null. -/
def field? {α : Type} (name : String) (value : Json → Option α) (json : Json) : Option α :=
  value ((json.field? name).getD .null)

/-- Reads one field of an object that stands for a default when it is missing. -/
def fieldOr? {α : Type} (name : String) (default : α) (value : Json → Option α) (json : Json) :
    Option α :=
  match json.field? name with
  | some json => value json
  | none => some default

/-! ### Records -/

/-- A record that is being read: the fields of an object, or the values that are left of an array
with one value for every field. -/
inductive Record where
  | named (fields : List (String × Json))
  | listed (values : List Json)

abbrev RecordReader (α : Type) := StateT Record Option α

/-- The value of the next field; nothing if the record has none of that name. -/
def nextField (name : String) : RecordReader (Option Json)
  | .named fields => some (fields.lookup name, .named fields)
  | .listed [] => some (none, .listed [])
  | .listed (value :: rest) => some (some value, .listed rest)

def required {α : Type} (name : String) (value : Json → Option α) : RecordReader α := do
  let some json ← nextField name | failure
  (value json : Option α)

/-- A field that stands for a default when it is missing. -/
def defaulted {α : Type} (name : String) (default : α) (value : Json → Option α) :
    RecordReader α := do
  match ← nextField name with
  | some json => (value json : Option α)
  | none => return default

/-- A field without which an object means nothing; an array has to hold it. -/
def optional {α : Type} (name : String) (value : Json → Option α) :
    RecordReader (Option α) := do
  match ← nextField name, ← get with
  | some .null, _ => return none
  | some json, _ => (value json : Option α).map some
  | none, .named _ => return none
  | none, .listed _ => failure

def record? {α : Type} (reader : RecordReader α) : Json → Option α
  | .obj fields => (reader (.named fields)).map (·.1)
  | .arr values =>
    match reader (.listed values) with
    | some (value, .listed []) => some value
    | _ => none
  | _ => none

def object? {α : Type} (reader : RecordReader α) : Json → Option α
  | .obj fields => (reader (.named fields)).map (·.1)
  | _ => none

end Wire

end TurtleFleet
