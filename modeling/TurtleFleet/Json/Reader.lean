import TurtleFleet.Fault
import TurtleFleet.Json.Value
import TurtleFleet.Text.Reader

/-! Reading JSON text. A value may be nested at most 127 deep. Whole numbers that fit 64 bits, with
or without a sign, stay whole; every other number becomes a binary64 number. Of several fields with
one name the last counts. -/

namespace TurtleFleet.Json

open Text (Reader takeDigits)

def skipBlanks (cs : List Char) : List Char :=
  cs.dropWhile fun c => c = ' ' || c = '\n' || c = '\t' || c = '\r'

/-! ### Strings -/

/-- The character that a single letter after a backslash stands for. -/
def shortEscape? : Char → Option Char
  | '"' => some '"'
  | '\\' => some '\\'
  | '/' => some '/'
  | 'b' => some '\u0008'
  | 'f' => some '\u000c'
  | 'n' => some '\n'
  | 'r' => some '\r'
  | 't' => some '\t'
  | _ => none

def ofSurrogates (high low : Nat) : Char :=
  Char.ofNat ((high - 0xD800) * 0x400 + (low - 0xDC00) + 0x10000)

/-- Reads the rest of a string, the characters so far in reverse. -/
def stringRest (done : List Char) : Reader String
  | '"' :: rest => some (String.ofList done.reverse, rest)
  | '\\' :: 'u' :: a :: b :: c :: d :: rest =>
    match Text.hexNumber? [a, b, c, d] with
    | none => none
    | some unit =>
      if unit < 0xD800 ∨ 0xDFFF < unit then stringRest (Char.ofNat unit :: done) rest
      else if 0xDC00 ≤ unit then none
      else
        match rest with
        | '\\' :: 'u' :: e :: f :: g :: h :: tail =>
          match Text.hexNumber? [e, f, g, h] with
          | none => none
          | some low =>
            if 0xDC00 ≤ low ∧ low ≤ 0xDFFF then stringRest (ofSurrogates unit low :: done) tail
            else none
        | _ => none
  | '\\' :: c :: rest =>
    match shortEscape? c with
    | some meant => stringRest (meant :: done) rest
    | none => none
  | c :: rest => if c.toNat < 32 ∨ c = '\\' then none else stringRest (c :: done) rest
  | [] => none

/-! ### Numbers -/

/-- The value of a decimal `significand * 10 ^ exponent`: the significand and the power of ten are
rounded to binary64 one by one. A value beyond the range is refused. -/
def scale? (significand : Nat) (exponent : Int) : Option Float :=
  let start := Float.ofScientific significand false 0
  let power (n : Nat) : Float := Float.ofScientific 1 false n
  if significand = 0 then some start
  else if 0 ≤ exponent then
    if 308 < exponent then none
    else
      let value := start * power exponent.toNat
      if value.isInf then none else some value
  else if -308 ≤ exponent then some (start / power (-exponent).toNat)
  else if -616 ≤ exponent then some (start / power 308 / power (-exponent - 308).toNat)
  else some 0

/-- The leading digits whose value fits 64 bits, and the digits after them. -/
def leadingDigits (value : Nat) : List Nat → Nat × List Nat
  | [] => (value, [])
  | digit :: rest =>
    if value * 10 + digit < word64 then leadingDigits (value * 10 + digit) rest
    else (value, digit :: rest)

/-- The parts of a number as they are written. -/
structure Numeral where
  negative : Bool
  whole : List Nat
  fraction : Option (List Nat)
  exponent : Option Int

def fraction : Reader (Option (List Nat))
  | '.' :: rest =>
    match takeDigits rest with
    | ([], _) => none
    | (digits, tail) => some (some digits, tail)
  | cs => some (none, cs)

def exponent : Reader (Option Int)
  | c :: rest =>
    if c = 'e' ∨ c = 'E' then
      let (sign, digits) : Int × List Char :=
        match rest with
        | '+' :: tail => (1, tail)
        | '-' :: tail => (-1, tail)
        | tail => (1, tail)
      match takeDigits digits with
      | ([], _) => none
      | (digits, tail) => some (some (sign * Text.appendDigits 10 0 digits), tail)
    else some (none, c :: rest)
  | [] => some (none, [])

def numeral (cs : List Char) : Option (Numeral × List Char) := do
  let (negative, cs) := match cs with
    | '-' :: rest => (true, rest)
    | cs => (false, cs)
  let (whole, cs) := takeDigits cs
  if whole.isEmpty ∨ (whole.head? = some 0 ∧ whole.length > 1) then none
  let (fraction, cs) ← fraction cs
  let (exponent, cs) ← exponent cs
  return ({ negative, whole, fraction, exponent }, cs)

/-- The magnitude of a numeral as a binary64 number: as many leading digits as fit 64 bits, times
a power of ten. -/
def Numeral.magnitude? (n : Numeral) : Option Float :=
  let (lead, skipped) := leadingDigits 0 n.whole
  let fraction := n.fraction.getD []
  let (significand, dropped) := leadingDigits lead fraction
  let places := fraction.length - dropped.length
  scale? significand (n.exponent.getD 0 + skipped.length - places)

/-- The value of a numeral. A whole number that fits 64 bits stays whole, except a negative zero. -/
def Numeral.value? (n : Numeral) : Option Json :=
  let magnitude := Text.appendDigits 10 0 n.whole
  let whole : Int := if n.negative then -magnitude else magnitude
  if n.fraction.isNone ∧ n.exponent.isNone ∧ ¬(n.negative ∧ magnitude = 0) ∧
      -signed64 ≤ whole ∧ whole < word64 then
    some (int whole)
  else
    n.magnitude?.map fun value => float (if n.negative then -value else value).toBits

/-! ### Values -/

/-- Reads items separated by commas up to the closing character. The number of steps is at most the
length of the text. -/
def separated {α : Type} (item : Reader α) (close : Char) : Nat → Reader (List α)
  | 0, _ => none
  | steps + 1, cs => do
    let (first, cs) ← item cs
    match skipBlanks cs with
    | ',' :: rest => do
      let (others, cs) ← separated item close steps rest
      return (first :: others, cs)
    | c :: rest => if c = close then return ([first], rest) else none
    | [] => none

def literal (text : String) (value : Json) : Reader Json := fun cs =>
  (Text.dropExact? text.toList cs).map (value, ·)

/-- Reads a field of an object: a name, a colon and a value. -/
def field (value : Reader Json) (cs : List Char) : Option ((String × Json) × List Char) :=
  match skipBlanks cs with
  | '"' :: rest => do
    let (name, cs) ← stringRest [] rest
    match skipBlanks cs with
    | ':' :: rest => do
      let (value, cs) ← value rest
      return ((name, value), cs)
    | _ => none
  | _ => none

/-- Reads a value whose containers are nested less than `depth` deep. -/
def value : (depth : Nat) → Reader Json
  | 0, _ => none
  | depth + 1, cs =>
    match skipBlanks cs with
    | '"' :: rest => (stringRest [] rest).map fun (text, cs) => (str text, cs)
    | '[' :: rest =>
      if depth = 0 then none
      else match skipBlanks rest with
        | ']' :: tail => some (arr [], tail)
        | rest => (separated (value depth) ']' rest.length rest).map fun (items, cs) =>
            (arr items, cs)
    | '\x7b' :: rest =>
      if depth = 0 then none
      else match skipBlanks rest with
        | '\x7d' :: tail => some (obj [], tail)
        | rest =>
          (separated (field (value depth)) '\x7d' rest.length rest).map fun (fields, cs) =>
            (obj (fields.foldl (fun known (name, value) => setField name value known) []), cs)
    | 'n' :: rest => literal "null" null ('n' :: rest)
    | 't' :: rest => literal "true" (bool true) ('t' :: rest)
    | 'f' :: rest => literal "false" (bool false) ('f' :: rest)
    | cs => do
      let (numeral, cs) ← numeral cs
      let number ← numeral.value?
      return (number, cs)

/-- How deep a text may be nested, plus one. -/
def depthLimit : Nat := 128

/-- Reads a whole text as one value. -/
def parse? (text : String) : Option Json := do
  let (json, rest) ← value depthLimit text.toList
  if (skipBlanks rest).isEmpty then some json else none

end TurtleFleet.Json
