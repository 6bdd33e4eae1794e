import TurtleFleet.WorkBudget
import TurtleFleet.Wire.Basic

/-! The JSON forms of the settings and of the record of work. -/

namespace TurtleFleet

open Wire

/-- The settings as an object. A field that is missing keeps its default. -/
instance : Wire Settings where
  encode settings :=
    .obj [("fuel_required", settings.fuelRequired), ("normal_fuel_limit", settings.normalFuelLimit),
      ("advanced_fuel_limit", settings.advancedFuelLimit),
      ("max_fuel_limit", settings.maxFuelLimit),
      ("animation_duration_ticks", settings.animationDuration),
      ("tick_work_budget_ms", settings.tickBudgetMs), ("event_capacity", settings.eventCapacity),
      ("tick_rate_hz", settings.tickRate),
      ("fuel_values", .obj (settings.fuelValues.entries.map fun (item, value) => (item, value)))]
  decode? := record? do
    let initial : Settings := {}
    let word (name : String) (value : Nat) : RecordReader Nat :=
      defaulted name value (count? word32)
    return { fuelRequired := ← defaulted "fuel_required" initial.fuelRequired decode?
             normalFuelLimit := ← word "normal_fuel_limit" initial.normalFuelLimit
             advancedFuelLimit := ← word "advanced_fuel_limit" initial.advancedFuelLimit
             maxFuelLimit := ← word "max_fuel_limit" initial.maxFuelLimit
             animationDuration := ← word "animation_duration_ticks" initial.animationDuration
             tickBudgetMs :=
               ← defaulted "tick_work_budget_ms" initial.tickBudgetMs (count? word64)
             eventCapacity := ← defaulted "event_capacity" initial.eventCapacity (count? word64)
             tickRate := ← word "tick_rate_hz" initial.tickRate
             fuelValues :=
               ← defaulted "fuel_values" initial.fuelValues (fields? (count? word32)) }

instance : Wire WorkStats where
  encode stats :=
    .obj [("ticks", stats.ticks), ("commands_executed", stats.commandsExecuted),
      ("total_work_nanos", stats.totalNanos), ("max_work_nanos", stats.maxNanos),
      ("last_tick_work_nanos", stats.lastTickNanos), ("exhausted_ticks", stats.exhaustedTicks)]
  decode? := record? do
    let count (name : String) : RecordReader Nat := required name (count? word64)
    return { ticks := ← count "ticks", commandsExecuted := ← count "commands_executed",
             totalNanos := ← count "total_work_nanos", maxNanos := ← count "max_work_nanos",
             lastTickNanos := ← count "last_tick_work_nanos",
             exhaustedTicks := ← count "exhausted_ticks" }

end TurtleFleet
