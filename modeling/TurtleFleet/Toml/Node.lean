import TurtleFleet.Json.Value

/-! The tables of a TOML document while it is read. How a table came about decides in which way it
may still be added to. -/

namespace TurtleFleet.Toml

/-- How a table came about. -/
inductive Origin where
  /-- By a header of its own. -/
  | header
  /-- By the header of a table inside it. -/
  | implied
  /-- By a key with dots. -/
  | dotted
deriving DecidableEq, Repr

/-- What stands under a name. -/
inductive Node where
  | leaf (value : Json)
  | table (origin : Origin) (entries : List (String × Node))
  /-- The tables of repeated headers. Only the last one can be added to. -/
  | tables (earlier : List Node) (last : Node)

namespace Node

abbrev Entries := List (String × Node)

/-- The document before its first line. -/
def root : Node := .table .header []

/-- Puts a node under a name. -/
def setEntry (name : String) (node : Node) : Entries → Entries
  | [] => [(name, node)]
  | (other, old) :: rest =>
    if other = name then (name, node) :: rest else (other, old) :: setEntry name node rest

/-- Changes the table that a node is, or the last one of its tables. -/
def onTable (f : Origin → Entries → Option (Origin × Entries)) : Node → Option Node
  | .leaf _ => none
  | .table origin entries => (f origin entries).map fun (origin, entries) => .table origin entries
  | .tables earlier last => (onTable f last).map (.tables earlier)

def hasHeader : Node → Bool
  | .table .header _ => true
  | _ => false

/-- Changes the table to which a path leads. Tables that are missing on the way are made. A key with
dots must not enter a table with a header of its own. -/
def change (ofKey : Bool) (f : Origin → Entries → Option (Origin × Entries)) :
    (path : List String) → Node → Option Node
  | [], node => node.onTable f
  | name :: path, node => node.onTable fun origin entries => do
    let missing : Node := .table (if ofKey then .dotted else .implied) []
    let child := (entries.lookup name).getD missing
    if ofKey && child.hasHeader then none
    let child ← change ofKey f path child
    return (origin, setEntry name child entries)

/-- Gives a name its value, once. A key with dots adds only to a table that such a key made. -/
def addValue (path : List String) (name : String) (value : Json) (node : Node) : Option Node :=
  let add (origin : Origin) (entries : Entries) : Option (Origin × Entries) :=
    if (origin == .dotted) == path.isEmpty then none
    else if (entries.lookup name).isSome then none
    else some (origin, entries ++ [(name, .leaf value)])
  node.change true add path

/-- Adds a value to the table of the header that came last. -/
def addValueAt (header path : List String) (name : String) (value : Json) (node : Node) :
    Option Node :=
  let add (origin : Origin) (entries : Entries) : Option (Origin × Entries) :=
    match addValue path name value (.table origin entries) with
    | some (.table origin entries) => some (origin, entries)
    | _ => none
  node.change false add header

/-- Opens the table of a header. A table may have one header only. -/
def openTable (path : List String) (name : String) (node : Node) : Option Node :=
  let add (origin : Origin) (entries : Entries) : Option (Origin × Entries) :=
    match entries.lookup name with
    | none => some (origin, setEntry name (.table .header []) entries)
    | some (.table .implied inner) => some (origin, setEntry name (.table .header inner) entries)
    | some _ => none
  node.change false add path

/-- Opens another table of a repeated header. -/
def openNext (path : List String) (name : String) (node : Node) : Option Node :=
  let add (origin : Origin) (entries : Entries) : Option (Origin × Entries) :=
    match entries.lookup name with
    | none => some (origin, setEntry name (.tables [] (.table .header [])) entries)
    | some (.tables earlier last) =>
      some (origin, setEntry name (.tables (earlier ++ [last]) (.table .header [])) entries)
    | some _ => none
  node.change false add path

mutual

def toJson : Node → Json
  | .leaf value => value
  | .table _ entries => .obj (fields entries)
  | .tables earlier last => .arr (items earlier ++ [toJson last])

def items : List Node → List Json
  | [] => []
  | node :: rest => toJson node :: items rest

def fields : Entries → List (String × Json)
  | [] => []
  | (name, node) :: rest => (name, toJson node) :: fields rest

end

end Node

end TurtleFleet.Toml
