import TurtleFleet.CommandQueue
import TurtleFleet.Response
import TurtleFleet.WorkBudget

/-! The fleet: the registered turtles with their queued commands and held responses, and all that
they share. Every operation of a fleet notes what an onlooker sees of it as signals. -/

namespace TurtleFleet

/-- What an onlooker sees of a fleet at work. -/
inductive Signal where
  | effect (effect : Effect)
  /-- An event goes out on the stream of a turtle. -/
  | published (event : Event)
  /-- The stream of a turtle ends. -/
  | closed (turtle : TurtleId)
deriving BEq, Repr

/-- Why a fleet refuses an operation. -/
inductive FleetError where
  | unknownTurtle (turtle : TurtleId)
  | duplicateTurtle (turtle : TurtleId)
  | spawnFailed (turtle : TurtleId) (cause : WorldError)
deriving DecidableEq, Repr

def FleetError.name : FleetError → String
  | unknownTurtle _ => "UnknownTurtle"
  | duplicateTurtle _ => "DuplicateTurtle"
  | spawnFailed .. => "SpawnFailed"

def FleetError.message : FleetError → String
  | unknownTurtle turtle => s!"turtle {turtle} is not registered"
  | duplicateTurtle turtle => s!"turtle {turtle} is already registered"
  | spawnFailed turtle cause => s!"failed to spawn turtle {turtle}: {cause.message}"

/-- Why an operation of a fleet gives no answer. -/
inductive Failure where
  | refused (error : FleetError)
  | broken (fault : Fault)
deriving DecidableEq, Repr

/-- A registered turtle within the fleet. -/
structure Member (C : Type) where
  /-- Tells this registration from every other one, also of the same turtle id. -/
  registration : Nat
  turtle : Turtle
  queue : CommandQueue C
  /-- The response held back until the animation of its command is over. -/
  pending : Option Response := none

/-- A handle through which commands can be submitted for one registration of a turtle. -/
structure Submitter where
  turtleId : TurtleId
  registration : Nat
deriving DecidableEq, Repr

/-- A fleet whose commands are of type `C` and whose work is watched by a monitor of type `M`. -/
structure Fleet (C M : Type) where
  settings : Settings
  time : Nat := 0
  members : Keyed (Member C) := .empty
  catalog : Catalog := .standard
  monitor : M
  /-- The turtle that the next tick visits first. -/
  cursor : Option TurtleId := none
  registrations : Nat := 0
  /-- The closed queues of registrations that are over. -/
  retired : List (Nat × CommandQueue C) := []

namespace Fleet

variable {C M : Type}

/-- The fleet without turtles, under sanitized settings. -/
def new (settings : Settings) (monitor : M) : Except Fault (Fleet C M) := do
  return { settings := ← settings.sanitized, monitor }

def withCatalog (fleet : Fleet C M) (catalog : Catalog) : Fleet C M := { fleet with catalog }

/-! ### Looking at a fleet -/

def turtleIds (fleet : Fleet C M) : List TurtleId := fleet.members.keys

def turtle? (fleet : Fleet C M) (id : TurtleId) : Option Turtle :=
  (fleet.members.get? id).map (·.turtle)

def snapshot? (fleet : Fleet C M) (id : TurtleId) : Option TurtleSnapshot :=
  (fleet.turtle? id).map (·.snapshot)

/-- How many commands of a turtle were submitted but not started. -/
def queued? (fleet : Fleet C M) (id : TurtleId) : Option Nat :=
  (fleet.members.get? id).map (·.queue.entries.length)

/-- Whether a command of the turtle is done while its animation still plays. -/
def hasPending (fleet : Fleet C M) (id : TurtleId) : Bool :=
  (fleet.members.get? id).any (·.pending.isSome)

/-- The turtles that are being moved, apart from one of them. -/
def moversExcept (fleet : Fleet C M) (id : TurtleId) : List TurtleId :=
  (fleet.members.entries.filter fun (other, member) => other ≠ id && member.turtle.latch).map (·.1)

def context (fleet : Fleet C M) : Context :=
  { settings := fleet.settings, catalog := fleet.catalog, time := fleet.time }

/-! ### Submitting commands -/

def setMember (fleet : Fleet C M) (id : TurtleId) (member : Member C) : Fleet C M :=
  { fleet with members := fleet.members.insert id member }

/-- The member of a registration that is not over. -/
def holder? (fleet : Fleet C M) (submitter : Submitter) : Option (Member C) :=
  (fleet.members.get? submitter.turtleId).filter (·.registration = submitter.registration)

/-- Submits a command through a handle and answers its number. A handle of a registration that is
over still numbers commands, which are then dropped. -/
def submitVia (fleet : Fleet C M) (submitter : Submitter) (command : C) : Nat × Fleet C M :=
  match fleet.holder? submitter with
  | some member =>
    let (id, queue) := member.queue.submit command
    (id, fleet.setMember submitter.turtleId { member with queue })
  | none =>
    let queue := (fleet.retired.lookup submitter.registration).getD { isOpen := false }
    let (id, queue) := queue.submit command
    let others := fleet.retired.filter (·.1 ≠ submitter.registration)
    (id, { fleet with retired := (submitter.registration, queue) :: others })

/-- The handle of the current registration of a turtle. -/
def submitter (fleet : Fleet C M) (id : TurtleId) : Except FleetError Submitter :=
  match fleet.members.get? id with
  | some member => .ok { turtleId := id, registration := member.registration }
  | none => .error (.unknownTurtle id)

/-- Submits a command for a turtle and answers its number. -/
def submit (fleet : Fleet C M) (id : TurtleId) (command : C) :
    Except FleetError (Nat × Fleet C M) := do
  return fleet.submitVia (← fleet.submitter id) command

def takeIn (fleet : Fleet C M) (arrivals : List (Submitter × C)) : Fleet C M :=
  arrivals.foldl (fun fleet arrival => (fleet.submitVia arrival.1 arrival.2).2) fleet

end Fleet

end TurtleFleet
