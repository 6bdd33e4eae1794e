import TurtleFleet.Animation.Kind

/-! Machine words and faults. Counts are natural numbers that stay below the number of values of their
word; signed words reach from the negative of a bound up to below it. A fault is the way in which an
operation breaks off instead of answering. It is a value, so what had been done before it can be stated
beside it. -/

namespace TurtleFleet

/-- The number of values of a 32-bit word. -/
abbrev word32 : Nat := 4294967296

/-- The number of values of a 64-bit word. -/
abbrev word64 : Nat := 18446744073709551616

/-- The bound of signed 32-bit words. -/
abbrev signed32 : Int := 2147483648

/-- The bound of signed 64-bit words. -/
abbrev signed64 : Int := 9223372036854775808

/-- The arithmetic whose result has no place in its word. -/
inductive Arithmetic where
  | add
  | subtract
  | multiply
  | negate
deriving DecidableEq, Repr

def Arithmetic.verb : Arithmetic → String
  | add => "add"
  | subtract => "subtract"
  | multiply => "multiply"
  | negate => "negate"

/-- Why an operation broke off. -/
inductive Fault where
  /-- The result of an operation on words is out of their range. -/
  | overflow (operation : Arithmetic)
  /-- An animation was begun while another one was still playing. -/
  | stillPlaying (requested playing : AnimationKind)
  /-- A relocation was asked for during a movement animation. -/
  | relocatedMidMove
  /-- A stream was to keep more events than can be counted in a signed word. -/
  | streamTooLong
  /-- The events that a stream was to keep need more memory than there are addresses. -/
  | streamTooLarge
  /-- Foreign code gave up, with a text or without one. -/
  | raised (text : Option String)
deriving DecidableEq, Repr

/-- The text of a fault, as a failed command reports it. -/
def Fault.message : Fault → String
  | overflow operation => s!"attempt to {operation.verb} with overflow"
  | stillPlaying requested playing =>
    s!"animation {requested.title} started while {playing.title} is still playing"
  | relocatedMidMove => "relocation attempted during a movement animation"
  | streamTooLong => "broadcast channel capacity exceeded `usize::MAX / 2`"
  | streamTooLarge => "capacity overflow"
  | raised text => text.getD "command panicked"

/-- The difference of two counts; a negative one is a fault. -/
def checkedSub (minuend subtrahend : Nat) : Except Fault Nat :=
  if subtrahend ≤ minuend then .ok (minuend - subtrahend) else .error (.overflow .subtract)

theorem checkedSub_of_le {minuend subtrahend : Nat} (small : subtrahend ≤ minuend) :
    checkedSub minuend subtrahend = .ok (minuend - subtrahend) := by
  simp [checkedSub, small]

end TurtleFleet
