import TurtleFleet.Command.Storage
import TurtleFleet.Wire.Command
import TurtleFleet.Wire.Settings

/-! Scripted commands for rehearsals. A script does one thing after another and answers with the
list of the results; it may run other commands on the way, and it ends as it was told. -/

namespace TurtleFleet

open Wire

inductive ScriptAction where
  | begin (kind : AnimationKind)
  | setFacing (facing : Facing)
  | select (slot : Nat)
  | setLabel (label : Option String)
  | addFuel (amount : Nat)
  | consumeFuel (amount : Nat)
  /-- Takes over the fuel limits of a tier, from the given settings or from those of the fleet. -/
  | reconfigureFuel (tier : Tier) (settings : Option Settings)
  | put (slot : Nat) (content : Option ItemStack)
  | take (slot count : Nat)
  | insertInto (slot : Nat) (stack : ItemStack)
  | insertFrom (slot : Nat) (stack : ItemStack)
  | setUpgrade (side : Side) (upgrade : Option Upgrade) (attached : Bool)
  | relocate (world : WorldId) (pos : BlockPos)
  | setBlock (world : WorldId) (pos : BlockPos) (block : Block)
  | lookAt (world : WorldId) (pos : BlockPos)
  | tellTime
  | tellSettings
  | lookUp (item : String)
  | raise (text : Option String)

inductive ScriptEnding where
  /-- The further results follow those of the steps. -/
  | finished (further : List Json)
  | stopped (stop : Stop)

mutual

inductive ScriptedCommand where
  | standard (command : TurtleCommand)
  | script (name : String) (steps : List ScriptStep) (ending : ScriptEnding)

inductive ScriptStep where
  | act (action : ScriptAction)
  | run (command : ScriptedCommand)
  /-- A step that could not be read says so and does nothing. -/
  | unreadable

end

namespace ScriptAction

variable {W : Type} [World W]

/-- Changes the inventory and answers with a stack. -/
def swapInventory (change : Inventory → Option ItemStack × Inventory) : Action W Json := do
  let (stack, inventory) := change (← Action.turtle).inventory
  Action.setInventory inventory
  return encode stack

/-- Does one thing and answers with its result. What happened before a fault stays. -/
def perform (context : Context) : ScriptAction → Action W Json
  | begin kind => do
    Action.beginAnimation kind
    return (← Action.turtle).animation.progress
  | setFacing facing => do
    Action.modifyTurtle ({ · with facing })
    return encode facing
  | select slot => do
    let (selected, turtle) := (← Action.turtle).select slot
    Action.modifyTurtle fun _ => turtle
    return selected
  | setLabel label => do
    Action.modifyTurtle (·.setLabel label)
    return encode (← Action.turtle).label
  | addFuel amount => do
    let (gain, fuel) := (← Action.turtle).fuel.add amount
    Action.modifyTurtle ({ · with fuel })
    return (← Action.attempt gain : Nat)
  | consumeFuel amount => do
    let (consumed, fuel) := (← Action.turtle).fuel.consume amount
    Action.modifyTurtle ({ · with fuel })
    return consumed
  | reconfigureFuel tier settings => do
    let fuel := (← Action.turtle).fuel.reconfigure tier (settings.getD context.settings)
    Action.modifyTurtle ({ · with fuel })
    return encode fuel
  | put slot content => swapInventory (·.set slot content)
  | take slot count => swapInventory (·.take slot count)
  | insertInto slot stack => swapInventory (·.insertInto slot stack)
  | insertFrom slot stack => do
    let (rest, inventory) := (← Action.turtle).inventory.insertFrom slot stack
    Action.setInventory inventory
    return encode (← Action.attempt rest)
  | setUpgrade side upgrade attached => do
    let changed : Bool ← Action.setUpgrade side upgrade attached
    return changed
  | relocate world pos => do
    let there : Bool ← Action.relocate world pos
    return there
  | setBlock world pos block => do
    match ← Action.setBlock world pos block with
    | .ok () => return true
    | .error error => return error.report
  | lookAt world pos => return encode (← Action.block world pos)
  | tellTime => return context.time
  | tellSettings => return encode context.settings
  | lookUp item => return Json.optional ((context.catalog.get? item).map Upgrade.report)
  | raise text => throw (.fault (.raised text))

end ScriptAction

/-- Runs a command inside another one. That it stops is an answer like any other; a fault is not. -/
def Action.nested {W : Type} (action : Action W (List Json)) : Action W Json := fun scene =>
  match action scene with
  | .ok payload scene => .ok (.arr payload) scene
  | .error (.rejected message) scene => .ok (errorReport "Rejected" message) scene
  | .error (.internal message) scene => .ok (errorReport "Internal" message) scene
  | .error (.fault cause) scene => .error (.fault cause) scene

namespace ScriptedCommand

def name : ScriptedCommand → String
  | standard command => command.name
  | script name .. => name

mutual

def execute {W : Type} [World W] (context : Context) : ScriptedCommand → Action W (List Json)
  | standard command => command.execute context
  | script _ steps ending => do
    let results ← performAll context steps
    match ending with
    | .finished further => return results ++ further
    | .stopped stop => throw stop

/-- Goes through the steps of a script and answers with their results. -/
def performAll {W : Type} [World W] (context : Context) : List ScriptStep → Action W (List Json)
  | [] => return []
  | step :: rest => do
    let result ← perform context step
    return result :: (← performAll context rest)

def perform {W : Type} [World W] (context : Context) : ScriptStep → Action W Json
  | .act action => action.perform context
  | .run command => Action.nested (execute context command)
  | .unreadable => return Wire.unreadable

end

end ScriptedCommand

instance : Command ScriptedCommand where
  name := ScriptedCommand.name
  execute command context := command.execute context

end TurtleFleet
