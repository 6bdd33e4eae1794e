import TurtleFleet.Json.Value
import TurtleFleet.Text.Quoted
import TurtleFleet.Text.Shortest

/-! The texts of a JSON value. The compact one has no blanks, the names in the order in which the object
holds them, and escapes only where the grammar asks for them. In the descriptive one every value names
its kind. -/

namespace TurtleFleet.Json

def hexDigit (n : Nat) : Char := (Nat.digitChar n)

/-- One character inside a string. -/
def escape (c : Char) : List Char :=
  match c with
  | '"' => ['\\', '"']
  | '\\' => ['\\', '\\']
  | '\u0008' => ['\\', 'b']
  | '\u000c' => ['\\', 'f']
  | '\n' => ['\\', 'n']
  | '\r' => ['\\', 'r']
  | '\t' => ['\\', 't']
  | c =>
    if c.toNat < 32 then
      ['\\', 'u', '0', '0', hexDigit (c.toNat / 16), hexDigit (c.toNat % 16)]
    else [c]

def quote (text : String) : String :=
  "\"" ++ String.ofList (text.toList.flatMap escape) ++ "\""

mutual

def render : Json → String
  | null => "null"
  | bool value => if value then "true" else "false"
  | int value => toString value
  | float bits => Text.renderFloat bits
  | str value => quote value
  | arr items => "[" ++ String.intercalate "," (renderItems items) ++ "]"
  | obj fields => "\x7b" ++ String.intercalate "," (renderFields fields) ++ "\x7d"

def renderItems : List Json → List String
  | [] => []
  | item :: rest => render item :: renderItems rest

def renderFields : List (String × Json) → List String
  | [] => []
  | (name, value) :: rest => (quote name ++ ":" ++ render value) :: renderFields rest

end

mutual

def describe : Json → String
  | null => "Null"
  | bool value => "Bool(" ++ toString value ++ ")"
  | int value => "Number(" ++ toString value ++ ")"
  | float bits => "Number(" ++ Text.renderFloat bits ++ ")"
  | str value => "String(" ++ Text.quote value ++ ")"
  | arr items => "Array [" ++ String.intercalate ", " (describeItems items) ++ "]"
  | obj fields => "Object \x7b" ++ String.intercalate ", " (describeFields fields) ++ "\x7d"

def describeItems : List Json → List String
  | [] => []
  | item :: rest => describe item :: describeItems rest

def describeFields : List (String × Json) → List String
  | [] => []
  | (name, value) :: rest =>
    (Text.quote name ++ ": " ++ describe value) :: describeFields rest

end

end TurtleFleet.Json
