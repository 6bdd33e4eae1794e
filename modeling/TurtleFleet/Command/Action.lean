import TurtleFleet.Json.Value
import TurtleFleet.World.Calls

/-! What a command does while it runs: it works on one turtle and the world, and stops with an error
if it cannot go on. What was done before it stopped stays done. Everything that an onlooker could
see is noted in order. -/

namespace TurtleFleet

inductive CallOutcome where
  | fulfilled
  | refused
  | broken
deriving DecidableEq, Repr

/-- What an onlooker sees of a running command. -/
inductive Effect where
  /-- A call to the world, and the turtles that were being moved during it. -/
  | world (call : WorldCall) (outcome : CallOutcome) (movers : List TurtleId)
  | equipment (notice : EquipmentNotice)
deriving DecidableEq, Repr

inductive Stop where
  /-- A precondition or an effect of the command failed. -/
  | rejected (message : String)
  /-- Something unexpected happened inside the command. -/
  | internal (message : String)
  | fault (cause : Fault)
deriving DecidableEq, Repr

def Stop.message : Stop → String
  | rejected message => message
  | internal message => message
  | fault cause => cause.message

structure Scene (W : Type) where
  turtle : Turtle
  world : W
  /-- The turtles other than this one that are being moved. -/
  otherMovers : List TurtleId := []
  effects : List Effect := []

def Scene.movers {W : Type} (scene : Scene W) : List TurtleId :=
  if scene.turtle.latch then scene.otherMovers ++ [scene.turtle.id] else scene.otherMovers

/-- What a command can look up but not change. -/
structure Context where
  settings : Settings
  catalog : Catalog
  time : Nat

theorem bind_of_ok {ε σ α β : Type} {first : EStateM ε σ α} {next : α → EStateM ε σ β} {before after : σ}
    {value : α} (ended : first before = .ok value after) :
    (first >>= next) before = next value after := by
  simp only [bind, EStateM.bind, ended]

theorem bind_of_error {ε σ α β : Type} {first : EStateM ε σ α} {next : α → EStateM ε σ β}
    {before after : σ} {error : ε} (ended : first before = .error error after) :
    (first >>= next) before = .error error after := by
  simp only [bind, EStateM.bind, ended]

/-- A piece of work on a scene. -/
abbrev Action (W : Type) := EStateM Stop (Scene W)

namespace Action

variable {W : Type}

/-- How an action ends in a scene, and the scene that it leaves behind. -/
def outcome {α : Type} (action : Action W α) (scene : Scene W) : Except Stop α × Scene W :=
  match action scene with
  | .ok value scene => (.ok value, scene)
  | .error stop scene => (.error stop, scene)

def reject {α : Type} (message : String) : Action W α := throw (.rejected message)

/-- Goes on with a value, or stops with the fault that took its place. -/
def attempt {α : Type} : Except Fault α → Action W α
  | .ok value => pure value
  | .error fault => throw (.fault fault)

def turtle : Action W Turtle := fun scene => .ok scene.turtle scene

def modifyTurtle (f : Turtle → Turtle) : Action W Unit := fun scene =>
  .ok () { scene with turtle := f scene.turtle }

def setInventory (inventory : Inventory) : Action W Unit :=
  modifyTurtle ({ · with inventory })

/-- Tells the outside what happened to the equipment. -/
def announce (notices : List EquipmentNotice) : Action W Unit := fun scene =>
  .ok () { scene with effects := scene.effects ++ notices.map .equipment }

def beginAnimation (kind : AnimationKind) : Action W Unit := do
  let animation ← attempt ((← turtle).animation.begin kind)
  modifyTurtle ({ · with animation })

/-- Sets an upgrade of the turtle, with or without telling its computer. -/
def setUpgrade (side : Side) (upgrade : Option Upgrade) (attached : Bool) : Action W Bool := do
  let (changed, turtle, notices) := (← turtle).setUpgrade side upgrade attached
  modifyTurtle fun _ => turtle
  announce notices
  return changed

/-- Runs an action with the latch of the turtle engaged, and releases it however the action ends. -/
def latched {α : Type} (action : Action W α) : Action W α := fun scene =>
  let set (latch : Bool) (scene : Scene W) : Scene W :=
    { scene with turtle := { scene.turtle with latch } }
  match action (set true scene) with
  | .ok value scene => .ok value (set false scene)
  | .error stop scene => .error stop (set false scene)

variable [World W]

def ask (call : WorldCall) : Action W call.Reply := fun scene =>
  let movers := scene.movers
  match World.answer call movers scene.world with
  | (.ok reply, world) =>
    let outcome := if call.fulfilled reply then .fulfilled else .refused
    .ok reply { scene with world, effects := scene.effects ++ [.world call outcome movers] }
  | (.error fault, world) =>
    .error (.fault fault)
      { scene with world, effects := scene.effects ++ [.world call .broken movers] }

def isLoaded (world : WorldId) (pos : BlockPos) : Action W Bool := ask (.isLoaded world pos)

def isInBounds (world : WorldId) (pos : BlockPos) : Action W Bool := ask (.isInBounds world pos)

def block (world : WorldId) (pos : BlockPos) : Action W Block := ask (.block world pos)

/-- Whether a place is protected against the owner of the turtle. -/
def isProtected (world : WorldId) (pos : BlockPos) : Action W Bool := do
  ask (.isProtected world pos (← turtle).owner)

def setBlock (world : WorldId) (pos : BlockPos) (block : Block) :
    Action W (Except WorldError Unit) :=
  ask (.setBlock world pos block)

def spawn (world : WorldId) (pos : BlockPos) (template : TurtleSnapshot) :
    Action W (Except WorldError EntityRef) :=
  ask (.spawn world pos template)

def remove (world : WorldId) (pos : BlockPos) : Action W Unit := ask (.remove world pos)

/-- Writes a block; a refusal of the world rejects the command. -/
def writeBlock (world : WorldId) (pos : BlockPos) (block : Block) : Action W Unit := do
  match ← setBlock world pos block with
  | .ok () => return
  | .error error => reject error.message

end Action

/-- An operation that can be requested of a turtle. Commands work on the turtle and the world; they
have no way to submit further commands. -/
class Command (C : Type) where
  name : C → String
  execute {W : Type} [World W] (command : C) (context : Context) : Action W (List Json)

end TurtleFleet
