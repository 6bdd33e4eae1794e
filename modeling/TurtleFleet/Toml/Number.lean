import TurtleFleet.Fault
import TurtleFleet.Json.Value
import TurtleFleet.Text.Reader

/-! The numbers, dates and times of TOML. A whole number fits a signed 64-bit word; a date or a time
is kept as its text. -/

namespace TurtleFleet.Toml

open Text (Reader digit? baseDigit? appendDigits dropExact?)

/-! ### Digits -/

/-- Takes digits of a base off the front; single underscores may stand between them. -/
def moreDigits (base : Nat) : List Char → List Nat × List Char
  | '_' :: c :: rest =>
    match baseDigit? base c with
    | some digit => let (more, tail) := moreDigits base rest; (digit :: more, tail)
    | none => ([], '_' :: c :: rest)
  | c :: rest =>
    match baseDigit? base c with
    | some digit => let (more, tail) := moreDigits base rest; (digit :: more, tail)
    | none => ([], c :: rest)
  | [] => ([], [])

/-- Reads digits of a base, of which the first one is no underscore. -/
def digits (base : Nat) : Reader (List Nat)
  | '_' :: _ => none
  | cs =>
    match moreDigits base cs with
    | ([], _) => none
    | read => some read

/-- Reads the digits of a decimal number. A leading zero stands alone. -/
def wholeDigits : Reader (List Nat)
  | '0' :: rest => some ([0], rest)
  | cs => digits 10 cs

/-- Takes a sign off the front; true stands for the minus. -/
def sign : List Char → Bool × List Char
  | '-' :: rest => (true, rest)
  | '+' :: rest => (false, rest)
  | cs => (false, cs)

/-! ### Numbers -/

def whole? (negative : Bool) (magnitude : Nat) : Option Json :=
  let value : Int := if negative then -magnitude else magnitude
  if -signed64 ≤ value ∧ value < signed64 then some (.int value) else none

/-- The number nearest to `significand * 10 ^ exponent`. Far beyond the range of the numbers, and
far below the smallest of them, the exponent alone decides. -/
def nearest (significand : Nat) (exponent : Int) : Float :=
  let places : Int := (Nat.toDigits 10 significand).length
  if significand = 0 ∨ exponent + places < -400 then 0
  else if 400 < exponent + places then Float.ofScientific 1 false 400
  else if exponent < 0 then Float.ofScientific significand true (-exponent).toNat
  else Float.ofScientific significand false exponent.toNat

/-- A decimal number; one that is too large is refused. -/
def decimal? (negative : Bool) (whole fraction : List Nat) (exponent : Int) : Option Json :=
  let value := nearest (appendDigits 10 0 (whole ++ fraction)) (exponent - fraction.length)
  if value.isInf && !negative then none
  else some (.float (if negative then -value else value).toBits)

/-- Reads the digits after a decimal point, if there is one. -/
def fractionDigits : Reader (Option (List Nat))
  | '.' :: rest => (digits 10 rest).map fun (digits, cs) => (some digits, cs)
  | cs => some (none, cs)

def exponent : Reader (Option Int)
  | c :: rest =>
    if c = 'e' ∨ c = 'E' then
      let (negative, cs) := sign rest
      (digits 10 cs).map fun (digits, cs) =>
        let magnitude : Int := appendDigits 10 0 digits
        (some (if negative then -magnitude else magnitude), cs)
    else some (none, c :: rest)
  | [] => some (none, [])

def decimal : Reader Json := fun cs => do
  let (negative, cs) := sign cs
  if let some cs := dropExact? "inf".toList cs then
    let infinity : Float := 1 / 0
    return (.float (if negative then -infinity else infinity).toBits, cs)
  if let some cs := dropExact? "nan".toList cs then
    let none : Float := 0 / 0
    return (.float none.toBits, cs)
  let (whole, cs) ← wholeDigits cs
  let (fraction, cs) ← fractionDigits cs
  let (exponent, cs) ← exponent cs
  let number ←
    if fraction.isNone ∧ exponent.isNone then whole? negative (appendDigits 10 0 whole)
    else decimal? negative whole (fraction.getD []) (exponent.getD 0)
  return (number, cs)

/-- Reads a number without a sign in another base. -/
def inBase (base : Nat) : Reader Json := fun cs => do
  let (digits, cs) ← digits base cs
  let number ← whole? false (appendDigits base 0 digits)
  return (number, cs)

def number : Reader Json
  | '0' :: 'x' :: rest => inBase 16 rest
  | '0' :: 'o' :: rest => inBase 8 rest
  | '0' :: 'b' :: rest => inBase 2 rest
  | cs => decimal cs

/-! ### Dates and times -/

/-- Reads a number of exactly so many digits, between the given bounds. -/
def fixedDigits (count least most : Nat) : Reader Nat := fun cs =>
  let head := cs.take count
  match head.mapM digit? with
  | some digits =>
    let value := appendDigits 10 0 digits
    if head.length = count ∧ least ≤ value ∧ value ≤ most then some (value, cs.drop count) else none
  | none => none

def daysIn (year month : Nat) : Nat :=
  if month = 2 then
    if year % 4 = 0 ∧ (year % 100 ≠ 0 ∨ year % 400 = 0) then 29 else 28
  else if month = 4 ∨ month = 6 ∨ month = 9 ∨ month = 11 then 30
  else 31

def dropDate? (cs : List Char) : Option (List Char) := do
  let (year, cs) ← fixedDigits 4 0 9999 cs
  let (month, cs) ← fixedDigits 2 1 12 (← dropExact? ['-'] cs)
  let (_, cs) ← fixedDigits 2 1 (daysIn year month) (← dropExact? ['-'] cs)
  return cs

/-- Takes a time of the day off the front. -/
def dropTime? (cs : List Char) : Option (List Char) := do
  let (_, cs) ← fixedDigits 2 0 23 cs
  let (_, cs) ← fixedDigits 2 0 59 (← dropExact? [':'] cs)
  let (_, cs) ← fixedDigits 2 0 60 (← dropExact? [':'] cs)
  match cs with
  | '.' :: rest =>
    let (fraction, cs) := Text.takeDigits rest
    if fraction.isEmpty then none else some cs
  | cs => return cs

/-- Takes the distance from universal time off the front, if it is given. -/
def dropOffset? : List Char → Option (List Char)
  | c :: rest =>
    if c = 'Z' ∨ c = 'z' then some rest
    else if c = '+' ∨ c = '-' then do
      let (_, cs) ← fixedDigits 2 0 23 rest
      let (_, cs) ← fixedDigits 2 0 59 (← dropExact? [':'] cs)
      return cs
    else some (c :: rest)
  | [] => some []

/-- Takes a date, a time or both off the front. -/
def dropMoment? (cs : List Char) : Option (List Char) :=
  match dropDate? cs with
  | none => dropTime? cs
  | some rest =>
    match rest with
    | c :: time =>
      if c = 'T' ∨ c = 't' ∨ c = ' ' then
        match dropTime? time with
        | some cs => dropOffset? cs
        | none => some (c :: time)
      else some (c :: time)
    | [] => some []

/-- Reads a date, a time or both as a text. -/
def moment : Reader Json := fun cs =>
  (dropMoment? cs).map fun rest =>
    (.str (String.ofList (cs.take (cs.length - rest.length))), rest)

end TurtleFleet.Toml
