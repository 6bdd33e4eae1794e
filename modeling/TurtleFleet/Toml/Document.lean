import TurtleFleet.Toml.Node
import TurtleFleet.Toml.Number
import TurtleFleet.Toml.Text

/-! Reading TOML documents. The text is read into statements first, one a line, and the statements
are then put together into one object. -/

namespace TurtleFleet.Toml

open Text (Reader dropExact?)

/-- A line of a document that says something. -/
inductive Statement where
  | pair (path : List String) (name : String) (value : Json)
  | header (path : List String) (name : String)
  /-- A header that can be repeated. -/
  | nextHeader (path : List String) (name : String)

/-- A key as its last part and the path before it. -/
def splitKey (parts : List String) : Option (List String × String) :=
  parts.getLast?.map (parts.dropLast, ·)

/-! ### Values -/

/-- Reads the items of an array and its end. After the last item there may be a comma. The number of
steps is at most the length of the text. -/
def items (item : Reader Json) : (steps : Nat) → Reader (List Json)
  | 0, _ => none
  | steps + 1, cs =>
    match skipLines false cs with
    | ']' :: rest => some ([], rest)
    | cs => do
      let (first, cs) ← item cs
      match skipLines false cs with
      | ',' :: rest =>
        let (others, cs) ← items item steps rest
        return (first :: others, cs)
      | ']' :: rest => return ([first], rest)
      | _ => none

/-- Reads a key and its value. -/
def pair (value : Reader Json) : Reader (List String × String × Json) := fun cs => do
  let (parts, cs) ← key cs
  let (path, name) ← splitKey parts
  let (json, cs) ← value (skipGap (← dropExact? ['='] cs))
  return ((path, name, json), cs)

/-- Adds the pairs of an inline table to a node, up to the end of the table. -/
def inlinePairs (value : Reader Json) : (steps : Nat) → Node → Reader Json
  | 0, _, _ => none
  | steps + 1, node, cs => do
    let ((path, name, json), cs) ← pair value cs
    let node ← node.addValue path name json
    match skipGap cs with
    | ',' :: rest => inlinePairs value steps node rest
    | '\x7d' :: rest => return (node.toJson, rest)
    | _ => none

/-- Reads a value whose arrays and inline tables are nested less than `depth` deep. -/
def value : (depth : Nat) → Reader Json
  | 0, _ => none
  | depth + 1, cs =>
    match cs with
    | '[' :: rest =>
      if depth = 0 then none
      else (items (value depth) (rest.length + 1) rest).map fun (items, cs) => (.arr items, cs)
    | '\x7b' :: rest =>
      if depth = 0 then none
      else
        match skipGap rest with
        | '\x7d' :: tail => some (.obj [], tail)
        | cs => inlinePairs (value depth) (cs.length + 1) Node.root cs
    | 't' :: _ => (dropExact? "true".toList cs).map (.bool true, ·)
    | 'f' :: _ => (dropExact? "false".toList cs).map (.bool false, ·)
    | '"' :: _ | '\'' :: _ => (string cs).map fun (text, cs) => (.str text, cs)
    | cs =>
      match moment cs with
      | some read => some read
      | none => number cs

/-! ### Documents -/

/-- Reads a statement from the beginning of its line. -/
def statement (cs : List Char) : Option (Statement × List Char) :=
  match cs with
  | '[' :: '[' :: rest => do
    let (parts, cs) ← key rest
    let (path, name) ← splitKey parts
    return (.nextHeader path name, ← dropExact? [']', ']'] cs)
  | '[' :: rest => do
    let (parts, cs) ← key rest
    let (path, name) ← splitKey parts
    return (.header path name, ← dropExact? [']'] cs)
  | cs => do
    let ((path, name, json), cs) ← pair (value nestingLimit) cs
    return (.pair path name json, cs)

/-- Reads all statements. The number of steps is at most the length of the text, plus one. -/
def statements : (steps : Nat) → List Char → Option (List Statement)
  | 0, _ => none
  | steps + 1, cs =>
    if cs.isEmpty then some []
    else
      match lineEnd? cs with
      | some rest => statements steps rest
      | none => do
        let (first, cs) ← statement (skipGap cs)
        let others ← statements steps (← lineEnd? cs)
        return first :: others

/-- The document so far, and the header that came last. -/
structure Progress where
  node : Node := .root
  header : List String := []

def Progress.take (progress : Progress) : Statement → Option Progress
  | .pair path name value => do
    return { progress with node := ← progress.node.addValueAt progress.header path name value }
  | .header path name => do
    return { node := ← progress.node.openTable path name, header := path ++ [name] }
  | .nextHeader path name => do
    return { node := ← progress.node.openNext path name, header := path ++ [name] }

/-- Reads a document as one object. A mark of the byte order may come first. -/
def parse? (text : String) : Option Json := do
  let cs := match text.toList with
    | '\ufeff' :: rest => rest
    | cs => cs
  let all ← statements (cs.length + 1) cs
  let progress ← all.foldlM Progress.take {}
  return progress.node.toJson

end TurtleFleet.Toml
