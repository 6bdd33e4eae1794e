/-! Text as it is read: what counts as white space, counts written in decimal, and readers, which take a
value off the front of the characters and leave the rest, or refuse them. -/

namespace TurtleFleet.Text

/-! ### White space -/

/-- The characters with the property White_Space. -/
def blanks : List Char :=
  ['\u0009', '\u000a', '\u000b', '\u000c', '\u000d', '\u0020', '\u0085', '\u00a0', '\u1680',
    '\u2000', '\u2001', '\u2002', '\u2003', '\u2004', '\u2005', '\u2006', '\u2007', '\u2008',
    '\u2009', '\u200a', '\u2028', '\u2029', '\u202f', '\u205f', '\u3000']

def isBlank (c : Char) : Bool := blanks.contains c

/-- The characters from the first to the last one that is not blank. -/
def trimChars (cs : List Char) : List Char :=
  ((cs.dropWhile isBlank).reverse.dropWhile isBlank).reverse

def trim (text : String) : String := String.ofList (trimChars text.toList)

/-- Text that holds nothing but white space. -/
def isBlankText (text : String) : Bool := text.toList.all isBlank

/-! ### Counts: an optional plus sign and at least one ASCII digit -/

/-- The value of an ASCII decimal digit. -/
def digit? (c : Char) : Option Nat :=
  if '0' ≤ c ∧ c ≤ '9' then some (c.toNat - '0'.toNat) else none

/-- The number whose digits, in the given base, continue those of `value`. -/
def appendDigits (base : Nat) (value : Nat) (digits : List Nat) : Nat :=
  digits.foldl (fun total digit => total * base + digit) value

/-- Reads at least one decimal digit and nothing else. -/
def digits? (cs : List Char) : Option Nat :=
  if cs.isEmpty then none else (cs.mapM digit?).map (appendDigits 10 0)

def count? (bound : Nat) (text : String) : Option Nat :=
  let cs := text.toList
  let unsigned := if cs.head? = some '+' then cs.tail else cs
  (digits? unsigned).filter (· < bound)

/-! ### Readers -/

abbrev Reader (α : Type) := List Char → Option (α × List Char)

def takeDigits : List Char → List Nat × List Char
  | [] => ([], [])
  | c :: rest =>
    match digit? c with
    | some digit => let (more, tail) := takeDigits rest; (digit :: more, tail)
    | none => ([], c :: rest)

/-- Takes the given characters off the front. -/
def dropExact? (expected cs : List Char) : Option (List Char) :=
  if expected.isPrefixOf cs then some (cs.drop expected.length) else none

/-- The value of a digit in a base up to sixteen, in either case. -/
def baseDigit? (base : Nat) (c : Char) : Option Nat :=
  let value : Option Nat :=
    if '0' ≤ c ∧ c ≤ '9' then some (c.toNat - 48)
    else if 'a' ≤ c ∧ c ≤ 'f' then some (c.toNat - 87)
    else if 'A' ≤ c ∧ c ≤ 'F' then some (c.toNat - 55)
    else none
  value.filter (· < base)

def hexNumber? (digits : List Char) : Option Nat :=
  (digits.mapM (baseDigit? 16)).map (appendDigits 16 0)

end TurtleFleet.Text
