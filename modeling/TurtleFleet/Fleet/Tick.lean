import TurtleFleet.Fleet.Registry

/-! One tick of a fleet. Every turtle is visited once: its upgrades get their update, a running
animation goes one step further, and a turtle that is idle then starts its next command if the work
monitor allows it. A response is held back while the animation of its command plays. -/

namespace TurtleFleet

structure ExecutedCommand where
  turtleId : TurtleId
  id : Nat
  command : String
  success : Bool
deriving DecidableEq, Repr

structure TickReport where
  time : Nat
  executed : List ExecutedCommand := []
  /-- The number of responses that went out because an animation ended. -/
  completed : Nat := 0
  /-- The turtles whose next command has to wait for a later tick. -/
  deferred : List TurtleId := []
deriving DecidableEq, Repr

/-- The names from the first one that is not below the cursor on, and then those before it. -/
def rotateTo (cursor : Option TurtleId) (ids : List TurtleId) : List TurtleId :=
  match cursor with
  | none => ids
  | some cursor => ids.dropWhile (· < cursor) ++ ids.takeWhile (· < cursor)

def Fleet.visitOrder {C M : Type} (fleet : Fleet C M) : List TurtleId :=
  rotateTo fleet.cursor fleet.turtleIds

/-- The turtle that the tick after this one visits first: the first deferred one, or else the one
that was visited second. -/
def nextCursor (order deferred : List TurtleId) : Option TurtleId :=
  deferred.head? <|> order[1]? <|> order.head?

namespace Member

variable {C : Type}

/-- The update of the upgrades for a tick, under the name of the turtle that is visited. -/
def updateUpgrades (member : Member C) (id : TurtleId) (time : Nat) :
    Member C × List EquipmentNotice :=
  let turtle := member.turtle
  let (equipment, notices) := turtle.equipment.update id time turtle.attached
  ({ member with turtle := { turtle with equipment } }, notices)

/-- One step of the animation, if one plays, and the response that goes out because it ended. -/
def animate (member : Member C) : Member C × Option Response :=
  let animation := member.turtle.animation
  if animation.playing then
    let (goesOn, animation) := animation.tick
    let member := { member with turtle := { member.turtle with animation } }
    if goesOn then (member, none) else ({ member with pending := none }, member.pending)
  else (member, none)

end Member

/-- A tick under way. -/
structure Round (C M W : Type) where
  stage : Stage C M W
  report : TickReport

namespace Round

variable {C M W : Type}

/-- Writes a member back and notes what an onlooker sees. -/
def note (round : Round C M W) (id : TurtleId) (member : Member C) (signals : List Signal) :
    Round C M W :=
  { round with stage := { round.stage with
      fleet := round.stage.fleet.setMember id member
      signals := round.stage.signals ++ signals } }

/-- Begins a visit: the upgrades get their update, the animation goes one step further, and the
response that goes out because it ended does. -/
def wake (round : Round C M W) (id : TurtleId) (member : Member C) : Member C × Round C M W :=
  let (member, notices) := member.updateUpgrades id round.stage.fleet.time
  let (member, delivered) := member.animate
  let signals := notices.map (fun notice => Signal.effect (.equipment notice)) ++
    delivered.toList.map fun response => .published (response.toEvent id)
  let round := round.note id member signals
  let completed := round.report.completed + delivered.toList.length
  (member, { round with report := { round.report with completed } })

/-- Takes in the submissions that come in while the tick is under way. -/
def takeIn (round : Round C M W) (arrivals : List (Submitter × C)) : Round C M W :=
  { round with stage := { round.stage with fleet := round.stage.fleet.takeIn arrivals } }

/-- Asks the work monitor whether another command may run. -/
def mayWork [WorkMonitor M] (round : Round C M W) : Bool × Round C M W :=
  let (allowed, monitor) := WorkMonitor.canWork round.stage.fleet.monitor
  let fleet := { round.stage.fleet with monitor }
  (allowed, { round with stage := { round.stage with fleet } })

/-- Defers the next command of a turtle. -/
def defer (round : Round C M W) (id : TurtleId) : Round C M W :=
  { round with report := { round.report with deferred := round.report.deferred ++ [id] } }

variable [Command C] [World W] [WorkMonitor M]

/-- Runs a command of a turtle, which takes so many nanoseconds. The response is held back if the
turtle is animated afterwards. -/
def execute (round : Round C M W) (id : TurtleId) (member : Member C) (entry : QueueEntry C)
    (nanos : Nat) : Round C M W :=
  let fleet := round.stage.fleet
  let scene : Scene W :=
    { turtle := member.turtle, world := round.stage.world, otherMovers := fleet.moversExcept id }
  let (result, scene) := (Command.execute entry.command fleet.context).outcome scene
  let response := Response.ofResult entry.id result
  let held := scene.turtle.animation.playing
  let member := { member with
    turtle := scene.turtle
    pending := if held then some response else member.pending }
  let answers := if held then [] else [Signal.published (response.toEvent id)]
  let monitor := WorkMonitor.trackWork fleet.monitor nanos
  let executed : ExecutedCommand :=
    { turtleId := id, id := entry.id, command := Command.name entry.command,
      success := result.isOk }
  { stage := {
      fleet := { fleet with monitor }.setMember id member
      world := scene.world
      signals := round.stage.signals ++ scene.effects.map .effect ++ answers }
    report := { round.report with executed := round.report.executed ++ [executed] } }

/-- Starts the next command of an idle turtle, or defers it. -/
def dispatch (round : Round C M W) (id : TurtleId) (member : Member C) (nanos : Nat) :
    Round C M W :=
  match member.queue.pop? with
  | none => round
  | some (entry, queue) =>
    match round.mayWork with
    | (false, round) => round.defer id
    | (true, round) => round.execute id { member with queue } entry nanos

/-- Visits one turtle. A command started on the visit takes so many nanoseconds. -/
def visit (round : Round C M W) (id : TurtleId) (nanos : Nat) : Round C M W :=
  match round.stage.fleet.members.get? id with
  | none => round
  | some member =>
    let (member, round) := round.wake id member
    if member.turtle.animation.playing then round else round.dispatch id member nanos

/-- Takes in the submissions that come in just before the visit of a turtle, and visits it. -/
def turn (arrivals : TurtleId → List (Submitter × C)) (nanos : TurtleId → Nat)
    (round : Round C M W) (id : TurtleId) : Round C M W :=
  (round.takeIn (arrivals id)).visit id (nanos id)

end Round

namespace Operation

variable {C M W : Type} [Command C] [World W] [WorkMonitor M]

def beginTick (fleet : Fleet C M) : Fleet C M :=
  { fleet with
    time := cappedAdd fleet.time 1
    monitor := WorkMonitor.beginTick fleet.monitor }

/-- Advances a fleet by one tick, while submissions may come in from elsewhere: those of a turtle
just before it is visited. The command that a turtle starts takes the nanoseconds given for that
turtle. -/
def tickAmid (arrivals : TurtleId → List (Submitter × C)) (nanos : TurtleId → Nat) :
    Operation C M W TickReport := fun stage =>
  let fleet := beginTick stage.fleet
  let order := fleet.visitOrder
  let start : Round C M W := { stage := { stage with fleet }, report := { time := fleet.time } }
  let round := order.foldl (Round.turn arrivals nanos) start
  let cursor := nextCursor order round.report.deferred
  .ok round.report { round.stage with fleet := { round.stage.fleet with cursor } }

/-- Advances a fleet by one tick during which nothing is submitted. -/
def tick (nanos : TurtleId → Nat) : Operation C M W TickReport := tickAmid (fun _ => []) nanos

end Operation

end TurtleFleet
