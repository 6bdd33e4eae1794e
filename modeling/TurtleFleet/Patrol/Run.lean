import TurtleFleet.Command.Storage
import TurtleFleet.Fleet.Tick
import TurtleFleet.Json.Printer
import TurtleFleet.Patrol.Options
import TurtleFleet.Settings.Sources
import TurtleFleet.Stream.Client
import TurtleFleet.Wire.Turtle

/-! The patrol: some turtles in a small flat world walk forward and turn right whenever the way is
blocked. Every turtle is led by a script of its own, which waits for one response after another. -/

namespace TurtleFleet

/-- What a program leaves behind. -/
structure Transcript where
  code : Nat := 0
  output : List String := []
  errors : List String := []

namespace Patrol

abbrev Site := Stage TurtleCommand WorkBudget MemoryWorld

inductive Phase where
  /-- The outcome of a move, after so many earlier ones. -/
  | moving (step : Nat)
  /-- The end of the turn after a move. -/
  | turning (step : Nat)
  | measuring
  | finished
deriving DecidableEq, Repr

structure Script where
  client : Client
  /-- The number of the command whose response it waits for. -/
  awaited : Nat
  phase : Phase

structure Scripting where
  site : Site
  bus : Bus
  output : List String := []
  errors : List String := []

def dimension : WorldId := "overworld"

def floorHeight : Int32 := 63

def initialFuel : Nat := 100

/-- The flat world with three blocks in the way. -/
def arena : Except Fault MemoryWorld := do
  let flat ← MemoryWorld.flat dimension 2 floorHeight (.solid "stone")
  return [0, 3, 6].foldl (fun world (x : Int32) =>
    world.putBlock dimension { x, y := floorHeight + 1, z := -4 } (.solid "cobblestone")) flat

/-- The turtle that comes after so many others, three blocks apart. -/
def spec (index : Nat) : TurtleSpec :=
  { turtleId := s!"turtle-{index + 1}"
    world := dimension
    pos := { x := Int32.ofIntClamp (index * 3), y := floorHeight + 1, z := 0 }
    fuelLevel := initialFuel }

/-- Submits a command for a script, which then waits for its response. -/
def request (script : Script) (command : TurtleCommand) (phase : Phase) (site : Site) :
    Script × Site :=
  let (awaited, fleet) := site.fleet.submitVia script.client.submitter command
  ({ script with awaited, phase }, { site with fleet })

/-- The next move, or the question for the fuel after the last one. -/
def advance (steps step : Nat) (script : Script) (site : Site) : Script × Site :=
  if step < steps then request script (.move .forward) (.moving step) site
  else request script .getFuelLevel .measuring site

/-- Goes on after a response, and says what there is to print. -/
def proceed (steps : Nat) (script : Script) (response : Response) (site : Site) :
    (Script × Site) × List String :=
  let turtle := script.client.submitter.turtleId
  match script.phase with
  | .moving step =>
    let message := response.message.getD "-"
    let line := s!"turtle={turtle} step={step + 1} success={response.success} message={message}"
    if response.success then (advance steps (step + 1) script site, [line])
    else (request script (.turn .right) (.turning step) site, [line])
  | .turning step => (advance steps (step + 1) script site, [])
  | .measuring =>
    let payload := String.intercalate ", " (response.payload.map Json.describe)
    (({ script with phase := .finished }, site), [s!"turtle={turtle} fuel=[{payload}]"])
  | .finished => ((script, site), [])

/-- Lets a script look for its response. -/
def attend (steps : Nat) (state : Scripting) (script : Script) : Script × Scripting :=
  if script.phase = .finished then (script, state)
  else
    let (poll, client, bus) := script.client.look state.bus fun client receiver =>
      client.waitFor script.awaited receiver
    let script := { script with client }
    let state := { state with bus }
    match poll with
    | .pending => (script, state)
    | .failed error =>
      let line := s!"turtle={client.submitter.turtleId} stopped: {error.message}"
      let errors := if script.phase = .measuring then [] else [line]
      ({ script with phase := .finished }, { state with errors := state.errors ++ errors })
    | .ready response =>
      let ((script, site), lines) := proceed steps script response state.site
      (script, { state with site, output := state.output ++ lines })

/-- Lets every script look for its response. -/
def attendAll (steps : Nat) : List Script → Scripting → List Script × Scripting
  | [], state => ([], state)
  | script :: rest, state =>
    let (script, state) := attend steps state script
    let (others, state) := attendAll steps rest state
    (script :: others, state)

/-- One tick, whose events go out to the scripts. -/
def tick (state : Scripting) : Scripting :=
  match Operation.tick (fun _ => 0) state.site with
  | .ok _ site | .error _ site =>
    { state with
      site := { site with signals := [] }
      bus := state.bus.absorbAll site.signals }

/-- Lets the fleet tick until all scripts are done, at most so many times. -/
def patrol (steps : Nat) : (ticks : Nat) → List Script → Scripting → Scripting
  | 0, _, state => state
  | ticks + 1, scripts, state =>
    if scripts.all (·.phase = .finished) then state
    else
      let (scripts, state) := attendAll steps scripts (tick state)
      patrol steps ticks scripts state

/-- More ticks than all scripts need: every move can be followed by a turn, the last command asks
for the fuel, and each command is over when its animation is. -/
def tickLimit (steps duration : Nat) : Nat := (2 * steps + 1) * (duration + 1) + 1

/-- Why a patrol does not take place. -/
inductive Failure where
  | refused (message : String)
  | broken (fault : Fault)

def Failure.transcript : Failure → Transcript
  | refused message => { code := 1, errors := [message] }
  | broken fault => { code := 101, errors := [fault.message] }

def Failure.ofSettings : SettingsFailure → Failure
  | .refused error => refused s!"failed to load config: {error.message}"
  | .broken fault => broken fault

/-- Registers the turtles from number `index` on, each with a client. -/
def enlist : (count index : Nat) → Site → Bus → Except Failure (List Client × Site × Bus)
  | 0, _, site, bus => .ok ([], site, bus)
  | count + 1, index, site, bus =>
    let spec := spec index
    match Operation.register spec site with
    | .error (.refused error) _ =>
      .error (.refused s!"failed to register {spec.turtleId}: {error.message}")
    | .error (.broken fault) _ => .error (.broken fault)
    | .ok submitter site => do
      let (client, bus) ← (Client.connect submitter bus).mapError .broken
      let (clients, site, bus) ← enlist count (index + 1) site bus
      return (client :: clients, site, bus)

/-- The first command of every script. -/
def launch (steps : Nat) : List Client → Site → List Script × Site
  | [], site => ([], site)
  | client :: rest, site =>
    let (script, site) := advance steps 0 { client, awaited := 0, phase := .finished } site
    let (others, site) := launch steps rest site
    (script :: others, site)

/-- The last snapshot of every turtle. -/
def snapshots (site : Site) : List String :=
  site.fleet.members.entries.map fun (id, member) =>
    let document := (Wire.encode member.turtle.snapshot).render
    s!"snapshot {id}: {document}"

def underSettings (options : PatrolOptions) (settings : Settings) : Except Failure Transcript := do
  let fleet ← (Fleet.new settings (WorkBudget.ofSettings settings)).mapError .broken
  let world ← arena.mapError .broken
  let (clients, site, bus) ←
    enlist options.turtles 0 { fleet, world } (Bus.ofSettings settings)
  let (scripts, site) := launch options.steps clients site
  let limit := tickLimit options.steps settings.animationDuration
  let final := patrol options.steps limit scripts { site, bus }
  let fleet := final.site.fleet
  let stats := WorkMonitor.stats fleet.monitor
  let interval := 1000 / max settings.tickRate 1
  return {
    output :=
      [s!"turtles: {options.turtles}",
       s!"steps: {options.steps}",
       s!"tick_interval_ms: {interval}"] ++
      final.output ++
      [s!"world_time: {fleet.time}",
       s!"commands_executed: {stats.commandsExecuted}",
       s!"exhausted_ticks: {stats.exhaustedTicks}"] ++
      snapshots final.site
    errors := final.errors }

/-- The settings that the options ask for, given what is found under a file name. -/
def settings (options : PatrolOptions) (environment : Environment) (files : String → FileState) :
    Except SettingsFailure Settings :=
  match options.configPath with
  | some path => Settings.ofFile environment path (files path)
  | none => Settings.ofDefaultSources environment (files Settings.defaultFile)

/-- Runs the program: arguments, environment and files in, what it prints out. -/
def run (arguments : List String) (environment : Environment) (files : String → FileState) :
    Transcript :=
  match PatrolRequest.ofArguments {} arguments with
  | .help => { output := PatrolRequest.usage }
  | .refused message => { code := 1, output := PatrolRequest.usage, errors := [message] }
  | .run options =>
    let outcome := do
      let settings ← (settings options environment files).mapError Failure.ofSettings
      underSettings options settings
    match outcome with
    | .error failure => failure.transcript
    | .ok transcript => transcript

end Patrol

end TurtleFleet
