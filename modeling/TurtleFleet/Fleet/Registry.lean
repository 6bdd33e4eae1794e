import TurtleFleet.Fleet.Basic

/-! Registering turtles with a fleet and taking them off it again, and what may be done to a
registered turtle outside of its commands. Whatever an operation did before it was refused or broke
off stays done. -/

namespace TurtleFleet

/-- A fleet at work in a world, and what an onlooker saw of it so far. -/
structure Stage (C M W : Type) where
  fleet : Fleet C M
  world : W
  signals : List Signal := []

abbrev Operation (C M W : Type) := EStateM Failure (Stage C M W)

/-- The message of the failures with which a removed turtle answers its queued commands. -/
def turtleRemoved : String := "Turtle removed"

namespace Fleet

/-- Takes a turtle off the fleet. Its handles go on numbering commands, which are dropped. -/
def release {C M : Type} (fleet : Fleet C M) (id : TurtleId) (member : Member C) : Fleet C M :=
  { fleet with
    members := fleet.members.erase id
    retired := (member.registration, member.queue.close) :: fleet.retired }

/-- Puts a turtle with an empty queue into the fleet. -/
def enroll {C M : Type} (fleet : Fleet C M) (turtle : Turtle) : Submitter × Fleet C M :=
  let registration := fleet.registrations
  ({ turtleId := turtle.id, registration },
    { fleet.setMember turtle.id { registration, turtle, queue := {} } with
      registrations := registration + 1 })

end Fleet

namespace Operation

variable {C M W : Type}

def refuse {α : Type} (error : FleetError) : Operation C M W α := throw (.refused error)

def fleet : Operation C M W (Fleet C M) := fun stage => .ok stage.fleet stage

def setFleet (fleet : Fleet C M) : Operation C M W Unit := fun stage =>
  .ok () { stage with fleet }

/-- The member of a turtle; an unknown turtle is refused. -/
def member (id : TurtleId) : Operation C M W (Member C) := do
  match (← fleet).members.get? id with
  | some member => return member
  | none => refuse (.unknownTurtle id)

def setTurtle (id : TurtleId) (member : Member C) (turtle : Turtle) : Operation C M W Unit := do
  setFleet ((← fleet).setMember id { member with turtle })

def signal (signals : List Signal) : Operation C M W Unit := fun stage =>
  .ok () { stage with signals := stage.signals ++ signals }

/-- Tells the outside what happened to the equipment of a turtle. -/
def announce (notices : List EquipmentNotice) : Operation C M W Unit :=
  signal (notices.map fun notice => .effect (.equipment notice))

/-- Calls the world on behalf of a turtle. -/
def ask [World W] (id : TurtleId) (call : WorldCall) : Operation C M W call.Reply := fun stage =>
  let movers := stage.fleet.moversExcept id
  let note (outcome : CallOutcome) : List Signal :=
    stage.signals ++ [.effect (.world call outcome movers)]
  match World.answer call movers stage.world with
  | (.ok reply, world) =>
    let outcome := if call.fulfilled reply then .fulfilled else .refused
    .ok reply { stage with world, signals := note outcome }
  | (.error fault, world) => .error (.broken fault) { stage with world, signals := note .broken }

/-- Registers a turtle: its first entity is made in the world, and commands are accepted from now
on. An entity that is no turtle is discarded. -/
def register [World W] (spec : TurtleSpec) : Operation C M W Submitter := do
  let id := spec.turtleId
  if (← fleet).members.contains id then refuse (.duplicateTurtle id)
  let turtle := Turtle.unplaced spec (← fleet).settings
  match ← ask id (.spawn spec.world spec.pos turtle.snapshot) with
  | .error cause => refuse (.spawnFailed id cause)
  | .ok entity =>
    if entity.kind ≠ .turtle then
      ask id (.remove entity.world entity.pos)
      refuse (.spawnFailed id (.spawnRejected s!"incompatible entity kind {entity.kind.describe}"))
    let (submitter, fleet) := (← fleet).enroll { turtle with entity }
    setFleet fleet
    return submitter

/-- Removes a turtle and its entity and answers its last snapshot. The computer loses the handles;
the response held back goes out, every queued command fails, and the stream ends. -/
def remove [World W] (id : TurtleId) : Operation C M W TurtleSnapshot := do
  let member ← member id
  setFleet ((← fleet).release id member)
  ask id (.remove member.turtle.world member.turtle.pos)
  if member.turtle.attached then announce (Equipment.dismissal id)
  let failures := member.queue.entries.map fun entry => Response.failure entry.id turtleRemoved
  signal ((member.pending.toList ++ failures).map fun response => .published (response.toEvent id))
  signal [.closed id]
  return member.turtle.snapshot

/-- Installs an upgrade or clears a side, and answers whether that changed anything. -/
def setUpgrade (id : TurtleId) (side : Side) (upgrade : Option Upgrade) : Operation C M W Bool := do
  let member ← member id
  let (changed, turtle, notices) := member.turtle.setUpgrade side upgrade member.turtle.attached
  setTurtle id member turtle
  announce notices
  return changed

/-- Attaches a computer. The peripheral handles are made anew by the next tick. -/
def attach (id : TurtleId) : Operation C M W Unit := do
  let member ← member id
  let turtle := member.turtle
  unless turtle.attached do
    setTurtle id member { turtle with attached := true, equipment := turtle.equipment.invalidate }

/-- Detaches the computer, which loses all peripheral handles. -/
def detach (id : TurtleId) : Operation C M W Unit := do
  let member ← member id
  let turtle := member.turtle
  if turtle.attached then
    setTurtle id member { turtle with attached := false, equipment := turtle.equipment.invalidate }
    announce (Equipment.dismissal id)

end Operation

end TurtleFleet
