import TurtleFleet.Fault
import TurtleFleet.Keyed

/-! The settings of a simulation: fuel limits, timing, the work allowed per tick and the fuel value
of items. A fleet works with sanitized settings only. -/

namespace TurtleFleet

/-- The grade of a turtle, which decides its fuel limit. -/
inductive Tier where
  | normal
  | advanced
deriving DecidableEq, Repr, Inhabited

namespace Tier

def all : List Tier := [normal, advanced]

def name : Tier → String
  | normal => "normal"
  | advanced => "advanced"

end Tier

def defaultMaxFuelLimit : Nat := 1000000

/-- The ticks that an animation lasts when nothing else is set. -/
def defaultAnimationDuration : Nat := 8

/-- The fuel value of an item, for the items known from the start. -/
def defaultFuelValues : Keyed Nat :=
  .ofList [("coal", 80), ("charcoal", 80), ("lava_bucket", 1000), ("planks", 15), ("stick", 5)]

structure Settings where
  /-- Without it every fuel check passes and the fuel level is for show. -/
  fuelRequired : Bool := true
  normalFuelLimit : Nat := 20000
  advancedFuelLimit : Nat := 100000
  /-- The ceiling of both fuel limits. -/
  maxFuelLimit : Nat := defaultMaxFuelLimit
  /-- The ticks of a full animation. -/
  animationDuration : Nat := defaultAnimationDuration
  /-- The milliseconds of command work allowed in one tick; zero allows any. -/
  tickBudgetMs : Nat := 10
  /-- The events kept for a slow reader. -/
  eventCapacity : Nat := 256
  tickRate : Nat := 20
  /-- The fuel gained per consumed item, by item. -/
  fuelValues : Keyed Nat := defaultFuelValues

namespace Settings

/-- The next even duration, at least two, so that half of it is a whole number of ticks. -/
def evenDuration (duration : Nat) : Except Fault Nat :=
  let duration := max duration 2
  if duration % 2 = 0 then .ok duration
  else if duration + 1 < word32 then .ok (duration + 1)
  else .error (.overflow .add)

/-- Settings in which every limit makes sense: a ceiling above zero that the fuel limits keep, an
even animation duration, room for an event, a tick rate, and fuel values above zero. -/
def sanitized (settings : Settings) : Except Fault Settings := do
  let ceiling := if settings.maxFuelLimit = 0 then defaultMaxFuelLimit else settings.maxFuelLimit
  let duration ← evenDuration settings.animationDuration
  return { settings with
    maxFuelLimit := ceiling
    normalFuelLimit := min settings.normalFuelLimit ceiling
    advancedFuelLimit := min settings.advancedFuelLimit ceiling
    animationDuration := duration
    eventCapacity := max settings.eventCapacity 1
    tickRate := max settings.tickRate 1
    fuelValues := settings.fuelValues.filter fun _ value => 0 < value }

/-- The fuel limit of a tier, never above the ceiling. -/
def fuelLimit (settings : Settings) (tier : Tier) : Nat :=
  min (match tier with
    | .normal => settings.normalFuelLimit
    | .advanced => settings.advancedFuelLimit) settings.maxFuelLimit

/-- The fuel gained from one item, if it burns. -/
def fuelValue? (settings : Settings) (item : String) : Option Nat := settings.fuelValues.get? item

end Settings

end TurtleFleet
