import TurtleFleet.Settings

/-! The fuel of one turtle. Where fuel is not required the level is for show: consuming succeeds and
changes nothing. -/

namespace TurtleFleet

structure FuelTank where
  level : Nat
  cap : Nat
  required : Bool
deriving DecidableEq, Repr

namespace FuelTank

/-- A tank filled to `level`, or to its cap if that is less. -/
def filled (level cap : Nat) (required : Bool) : FuelTank :=
  { level := min level cap, cap, required }

def forTier (tier : Tier) (settings : Settings) : FuelTank :=
  filled 0 (settings.fuelLimit tier) settings.fuelRequired

/-- What still fits below the cap. -/
def remaining (tank : FuelTank) : Nat := tank.cap - tank.level

def has (tank : FuelTank) (amount : Nat) : Bool := !tank.required || amount ≤ tank.level

/-- Burns an amount; a level below it stays as it is. -/
def consume (tank : FuelTank) (amount : Nat) : Bool × FuelTank :=
  if !tank.required then (true, tank)
  else if amount ≤ tank.level then (true, { tank with level := tank.level - amount })
  else (false, tank)

/-- Adds fuel up to the cap and answers how much was gained. A level that was above the cap falls to
it, and the negative gain is a fault. -/
def add (tank : FuelTank) (amount : Nat) : Except Fault Nat × FuelTank :=
  let level := min (tank.level + amount) tank.cap
  (checkedSub level tank.level, { tank with level })

/-- Takes over the limits of a tier. -/
def reconfigure (tank : FuelTank) (tier : Tier) (settings : Settings) : FuelTank :=
  filled tank.level (settings.fuelLimit tier) settings.fuelRequired

end FuelTank

end TurtleFleet
