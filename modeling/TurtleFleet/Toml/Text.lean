import TurtleFleet.Text.Reader

/-! The characters, line ends and strings of TOML text, and the keys that name its values. -/

namespace TurtleFleet.Toml

open Text (Reader hexNumber?)

/-! ### Blanks, comments and lines -/

/-- A blank within a line. -/
def isGap (c : Char) : Bool := c = ' ' || c = '\t'

def skipGap (cs : List Char) : List Char := cs.dropWhile isGap

/-- Any character that is no control, and the tab. -/
def isPlain (c : Char) : Bool := c = '\t' || (0x20 ≤ c.toNat && c.toNat ≠ 0x7f)

def skipComment : List Char → List Char
  | '#' :: rest => rest.dropWhile isPlain
  | cs => cs

/-- Takes the end of a line off the front. -/
def newline? : List Char → Option (List Char)
  | '\n' :: rest => some rest
  | '\r' :: '\n' :: rest => some rest
  | _ => none

/-- Takes the rest of a line off the front, in which only a comment may stand. -/
def lineEnd? (cs : List Char) : Option (List Char) :=
  match skipComment (skipGap cs) with
  | [] => some []
  | cs => newline? cs

/-- Skips blanks, line ends and comments. -/
def skipLines (inComment : Bool) : List Char → List Char
  | [] => []
  | '\n' :: rest => skipLines false rest
  | '\r' :: '\n' :: rest => skipLines false rest
  | c :: rest =>
    if inComment then (if isPlain c then skipLines true rest else c :: rest)
    else if isGap c then skipLines false rest
    else if c = '#' then skipLines true rest
    else c :: rest

/-! ### Strings -/

def charOfCode? (code : Nat) : Option Char :=
  if code.isValidChar then some (Char.ofNat code) else none

/-- Reads a character by its code point, given by so many hexadecimal digits. -/
def coded (digits : Nat) (cs : List Char) : Option (Char × List Char) :=
  if cs.length < digits then none
  else ((hexNumber? (cs.take digits)).bind charOfCode?).map (·, cs.drop digits)

/-- Reads what follows a backslash. -/
def escape : Reader Char
  | 'b' :: rest => some ('\u0008', rest)
  | 't' :: rest => some ('\t', rest)
  | 'n' :: rest => some ('\n', rest)
  | 'f' :: rest => some ('\u000c', rest)
  | 'r' :: rest => some ('\r', rest)
  | '"' :: rest => some ('"', rest)
  | '\\' :: rest => some ('\\', rest)
  | 'u' :: rest => coded 4 rest
  | 'U' :: rest => coded 8 rest
  | _ => none

theorem length_of_coded {digits : Nat} {cs rest : List Char} {c : Char}
    (read : coded digits cs = some (c, rest)) : rest.length ≤ cs.length := by
  unfold coded at read
  split at read
  · simp at read
  · obtain ⟨_, _, same⟩ := Option.map_eq_some_iff.mp read
    simp [← (Prod.mk.inj same).2]

theorem length_of_escape {cs rest : List Char} {c : Char} (read : escape cs = some (c, rest)) :
    rest.length < cs.length := by
  unfold escape at read
  split at read <;> grind [→ length_of_coded]

/-- Reads the rest of a string between quotation marks, the characters so far in reverse. -/
def basicRest (done : List Char) (cs : List Char) : Option (String × List Char) :=
  match cs with
  | [] => none
  | '"' :: rest => some (String.ofList done.reverse, rest)
  | '\\' :: rest =>
    match read : escape rest with
    | none => none
    | some (c, tail) =>
      have := length_of_escape read
      basicRest (c :: done) tail
  | c :: rest => if isPlain c then basicRest (c :: done) rest else none
termination_by cs.length

/-- Reads the rest of a string between apostrophes. -/
def literalRest (done : List Char) : Reader String
  | [] => none
  | '\'' :: rest => some (String.ofList done.reverse, rest)
  | c :: rest => if isPlain c then literalRest (c :: done) rest else none

/-- The end of a string over several lines: after its three closing marks there can be two more,
which then belong to the string. -/
def closing (mark : Char) (done : List Char) (cs : List Char) : String × List Char :=
  let extra := (cs.takeWhile (· = mark)).take 2
  (String.ofList (extra ++ done).reverse, cs.drop extra.length)

/-- Reads the rest of a string over several lines. A backslash at the end of a line folds it: the
blanks and line ends after it are left out. -/
def basicLinesRest (folding : Bool) (done : List Char) (cs : List Char) :
    Option (String × List Char) :=
  match cs with
  | [] => none
  | '"' :: '"' :: '"' :: rest => some (closing '"' done rest)
  | '\n' :: rest => basicLinesRest folding (if folding then done else '\n' :: done) rest
  | '\r' :: '\n' :: rest => basicLinesRest folding (if folding then done else '\n' :: done) rest
  | '\\' :: rest =>
    if (newline? (skipGap rest)).isSome then basicLinesRest true done rest
    else
      match read : escape rest with
      | none => none
      | some (c, tail) =>
        have := length_of_escape read
        basicLinesRest false (c :: done) tail
  | c :: rest =>
    if folding && isGap c then basicLinesRest true done rest
    else if isPlain c then basicLinesRest false (c :: done) rest
    else none
termination_by cs.length

/-- Reads the rest of a string over several lines without escapes. -/
def literalLinesRest (done : List Char) : Reader String
  | [] => none
  | '\'' :: '\'' :: '\'' :: rest => some (closing '\'' done rest)
  | '\n' :: rest => literalLinesRest ('\n' :: done) rest
  | '\r' :: '\n' :: rest => literalLinesRest ('\n' :: done) rest
  | c :: rest => if isPlain c then literalLinesRest (c :: done) rest else none

/-- A string over several lines may begin with a line end, which does not count. -/
def skipFirstNewline (cs : List Char) : List Char := (newline? cs).getD cs

/-- Reads a string of any of the four kinds. -/
def string : Reader String
  | '"' :: '"' :: '"' :: rest => basicLinesRest false [] (skipFirstNewline rest)
  | '"' :: rest => basicRest [] rest
  | '\'' :: '\'' :: '\'' :: rest => literalLinesRest [] (skipFirstNewline rest)
  | '\'' :: rest => literalRest [] rest
  | _ => none

/-! ### Keys -/

/-- A character of a key without quotation marks. -/
def isKeyChar (c : Char) : Bool := c.isAlphanum || c = '-' || c = '_'

def keyPart : Reader String
  | '"' :: rest => basicRest [] rest
  | '\'' :: rest => literalRest [] rest
  | cs =>
    let part := cs.takeWhile isKeyChar
    if part.isEmpty then none else some (String.ofList part, cs.dropWhile isKeyChar)

/-- How deep values may be nested and how many parts a key may have, plus one. -/
def nestingLimit : Nat := 80

/-- Reads parts separated by dots, fewer than `limit` of them. -/
def keyParts : (limit : Nat) → Reader (List String)
  | 0, _ => none
  | limit + 1, cs =>
    if limit = 0 then none
    else
      match keyPart (skipGap cs) with
      | none => none
      | some (part, cs) =>
        match skipGap cs with
        | '.' :: rest => (keyParts limit rest).map fun (parts, cs) => (part :: parts, cs)
        | cs => some ([part], cs)

def key : Reader (List String) := keyParts nestingLimit

end TurtleFleet.Toml
