import TurtleFleet.Fault
import TurtleFleet.Text.Reader

/-! The command line of the patrol. -/

namespace TurtleFleet

structure PatrolOptions where
  turtles : Nat := 2
  /-- The moves that every turtle tries. -/
  steps : Nat := 6
  /-- The file with the settings, if one is given. -/
  configPath : Option String := none
deriving DecidableEq, Repr

/-- What a command line asks for. -/
inductive PatrolRequest where
  | run (options : PatrolOptions)
  | help
  | refused (message : String)
deriving DecidableEq, Repr

namespace PatrolRequest

def usage : List String :=
  ["Usage: turtle_world_demo [--turtles <n>] [--steps <n>] [--config <path>]",
   "Options:",
   "  --turtles <n>    Turtles to register (default: 2)",
   "  --steps <n>      Forward moves per turtle (default: 6)",
   "  --config <path>  TOML config file (default: turtle_world.toml or env)"]

/-- Reads a count above zero. -/
def positive? (text : String) : Option Nat := (Text.count? word64 text).filter (0 < ·)

/-- Reads the arguments from left to right; the first one that asks for help or cannot be understood
decides. -/
def ofArguments (options : PatrolOptions) : List String → PatrolRequest
  | [] => run options
  | "--help" :: _ => help
  | "-h" :: _ => help
  | "--turtles" :: value :: rest =>
    match positive? value with
    | some turtles => ofArguments { options with turtles } rest
    | none => refused "--turtles requires a positive integer"
  | ["--turtles"] => refused "--turtles requires a positive integer"
  | "--steps" :: value :: rest =>
    match positive? value with
    | some steps => ofArguments { options with steps } rest
    | none => refused "--steps requires a positive integer"
  | ["--steps"] => refused "--steps requires a positive integer"
  | "--config" :: path :: rest => ofArguments { options with configPath := some path } rest
  | ["--config"] => refused "--config requires a file path"
  | other :: _ => refused s!"unexpected argument: {other}"

end PatrolRequest

end TurtleFleet
