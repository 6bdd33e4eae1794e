import TurtleFleet.Settings
import TurtleFleet.Text.Reader

/-! Settings from environment variables. A variable that is missing or blank leaves its setting
alone; one that cannot be read is an error. -/

namespace TurtleFleet

/-- Why settings cannot be had from their sources. -/
inductive SettingsError where
  | invalidValue (key value : String)
  | unreadable (path reason : String)
  | malformed (path : String)
deriving DecidableEq, Repr

def SettingsError.message : SettingsError → String
  | invalidValue key value => s!"invalid value for {key}: {value}"
  | unreadable path reason => s!"failed to read config file {path}: {reason}"
  | malformed path => s!"failed to parse config file {path}"

inductive SettingsFailure where
  | refused (error : SettingsError)
  | broken (fault : Fault)
deriving DecidableEq, Repr

abbrev Environment := String → Option String

structure Override where
  key : String
  /-- The settings with the value for which a text stands. -/
  apply : String → Settings → Option Settings

namespace Settings

/-- Reads a switch, in any case of ASCII letters. -/
def switch? (text : String) : Option Bool :=
  let word := text.map Char.toLower
  if ["1", "true", "yes", "on"].contains word then some true
  else if ["0", "false", "no", "off"].contains word then some false
  else none

/-- The variables that are looked at, one after the other. -/
def overrides : List Override :=
  [{ key := "TURTLE_WORLD_FUEL_REQUIRED"
     apply := fun text settings =>
       (switch? text).map fun fuelRequired => { settings with fuelRequired } },
   { key := "TURTLE_WORLD_FUEL_LIMIT"
     apply := fun text settings =>
       (Text.count? word32 text).map fun normalFuelLimit => { settings with normalFuelLimit } },
   { key := "TURTLE_WORLD_ADVANCED_FUEL_LIMIT"
     apply := fun text settings =>
       (Text.count? word32 text).map fun advancedFuelLimit =>
         { settings with advancedFuelLimit } },
   { key := "TURTLE_WORLD_TICK_BUDGET_MS"
     apply := fun text settings =>
       (Text.count? word64 text).map fun tickBudgetMs => { settings with tickBudgetMs } },
   { key := "TURTLE_WORLD_TICK_RATE_HZ"
     apply := fun text settings =>
       (Text.count? word32 text).map fun tickRate => { settings with tickRate } }]

/-- Takes over one variable, if it has a value that is not blank. -/
def overrideBy (environment : Environment) (settings : Settings) (entry : Override) :
    Except SettingsError Settings :=
  match (environment entry.key).filter fun value => !Text.isBlankText value with
  | none => .ok settings
  | some value =>
    match entry.apply (Text.trim value) settings with
    | some settings => .ok settings
    | none => .error (.invalidValue entry.key value)

/-- Takes over all variables and sanitizes the result. -/
def overridden (settings : Settings) (environment : Environment) :
    Except SettingsFailure Settings :=
  match overrides.foldlM (overrideBy environment) settings with
  | .error error => .error (.refused error)
  | .ok settings => settings.sanitized.mapError .broken

end Settings

end TurtleFleet
