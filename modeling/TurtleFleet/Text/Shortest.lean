/-! The shortest decimal that reads back as a given binary64 number. The number is decoded into an
integer times a power of two, and the decimal is searched in exact arithmetic among the neighbours
of the number on coarser and finer decimal grids. -/

namespace TurtleFleet.Text

/-- A decimal `digits * 10 ^ exponent`. -/
structure Decimal where
  digits : Nat
  exponent : Int
deriving DecidableEq, Repr

/-- A positive finite binary64 number `significand * 2 ^ exponent`. -/
structure Binary where
  significand : Nat
  exponent : Int
  /-- The number below is only half as far away as the number above. -/
  narrowBelow : Bool
deriving DecidableEq, Repr

/-- The leading bit of the significands, which is not stored. -/
def leadingBit : Nat := 4503599627370496

/-- Decodes the magnitude of a finite binary64 number. -/
def Binary.ofBits (bits : UInt64) : Binary :=
  let field : Nat := bits.toNat / leadingBit % 2048
  let fraction : Nat := bits.toNat % leadingBit
  if field = 0 then { significand := fraction, exponent := -1074, narrowBelow := false }
  else
    { significand := fraction + leadingBit, exponent := (field : Int) - 1075,
      narrowBelow := fraction = 0 && field > 1 }

/-- Numerator and denominator of `value * 2 ^ twos / 10 ^ tens`. -/
def scaled (value : Nat) (twos tens : Int) : Nat × Nat :=
  (value * Nat.pow 2 twos.toNat * Nat.pow 10 (-tens).toNat,
    Nat.pow 2 (-twos).toNat * Nat.pow 10 tens.toNat)

/-- The largest `e` with `10 ^ e` not above the number, searched downwards from `candidate`. -/
def leadingExponent (number : Binary) : Nat → Int → Int
  | 0, candidate => candidate
  | steps + 1, candidate =>
    let (top, bottom) := scaled number.significand number.exponent candidate
    if bottom ≤ top then candidate else leadingExponent number steps (candidate - 1)

/-- The neighbour of the number on the grid of `10 ^ grid` that reads back as the number, the
nearer one if both do. -/
def Binary.onGrid? (number : Binary) (grid : Int) : Option Nat :=
  let quarters := 4 * number.significand
  let low := if number.narrowBelow then quarters - 1 else quarters - 2
  let high := quarters + 2
  let (top, bottom) := scaled quarters (number.exponent - 2) grid
  let (lowTop, _) := scaled low (number.exponent - 2) grid
  let (highTop, _) := scaled high (number.exponent - 2) grid
  let closed := number.significand % 2 = 0
  let inside (digits : Nat) : Bool :=
    if closed then lowTop ≤ digits * bottom && digits * bottom ≤ highTop
    else lowTop < digits * bottom && digits * bottom < highTop
  let below := top / bottom
  let nearBelow := 2 * (top % bottom) < bottom ∨ (2 * (top % bottom) = bottom ∧ below % 2 = 0)
  match inside below, inside (below + 1) with
  | true, true => some (if nearBelow then below else below + 1)
  | true, false => some below
  | false, true => some (below + 1)
  | false, false => none

/-- Tries finer and finer grids, starting with the leading digit alone. -/
def Binary.refine (number : Binary) : Nat → Int → Decimal
  | 0, grid => { digits := (number.onGrid? grid).getD 0, exponent := grid }
  | steps + 1, grid =>
    match number.onGrid? grid with
    | some digits => { digits, exponent := grid }
    | none => number.refine steps (grid - 1)

/-- Moves trailing zeros of the digits into the exponent. -/
def Decimal.stripZeros : Nat → Decimal → Decimal
  | 0, decimal => decimal
  | steps + 1, decimal =>
    if decimal.digits ≠ 0 ∧ decimal.digits % 10 = 0 then
      stripZeros steps { digits := decimal.digits / 10, exponent := decimal.exponent + 1 }
    else decimal

/-- The shortest decimal that reads back as the number with these bits, the sign left aside. -/
def shortest (bits : UInt64) : Decimal :=
  let number := Binary.ofBits bits
  if number.significand = 0 then { digits := 0, exponent := 0 }
  else (number.refine 17 (leadingExponent number 640 309)).stripZeros 20

/-- How a decimal is written: positionally while its point lies within sixteen digits, with an
exponent otherwise. -/
def Decimal.render (decimal : Decimal) : String :=
  let digits := toString decimal.digits
  let point := decimal.exponent + digits.length
  if 0 ≤ decimal.exponent ∧ point ≤ 16 then
    digits ++ String.ofList (List.replicate decimal.exponent.toNat '0') ++ ".0"
  else if 0 < point ∧ point ≤ 16 then
    String.ofList (digits.toList.take point.toNat) ++ "." ++
      String.ofList (digits.toList.drop point.toNat)
  else if -5 < point ∧ point ≤ 0 then
    "0." ++ String.ofList (List.replicate (-point).toNat '0') ++ digits
  else if digits.length = 1 then s!"{digits}e{point - 1}"
  else
    String.ofList (digits.toList.take 1) ++ "." ++ String.ofList (digits.toList.drop 1) ++
      s!"e{point - 1}"

/-- The text of a finite binary64 number. -/
def renderFloat (bits : UInt64) : String :=
  if bits >>> 63 = 0 then (shortest bits).render else "-" ++ (shortest bits).render

end TurtleFleet.Text
