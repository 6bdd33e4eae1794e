import TurtleFleet.Stream.Bus

/-! The client that submits commands through a handle and finds the responses in the stream of the
turtle. Events that it reads while looking for something else go to its backlog, so that they are
found later; a full backlog loses its oldest event. -/

namespace TurtleFleet

/-- Why a client gets no answer. -/
inductive ClientError where
  | streamClosed (turtle : TurtleId)
  | timeout (turtle : TurtleId) (id millis : Nat)
  | lagged (turtle : TurtleId) (missed : Nat)
deriving DecidableEq, Repr

def ClientError.name : ClientError → String
  | streamClosed _ => "EventStreamClosed"
  | timeout .. => "Timeout"
  | lagged .. => "Lagged"

def ClientError.message : ClientError → String
  | streamClosed turtle => s!"event stream of turtle {turtle} closed"
  | timeout turtle id millis =>
    s!"no response for command {id} of turtle {turtle} within {millis}ms"
  | lagged turtle missed => s!"event stream of turtle {turtle} lagged; {missed} events skipped"

/-- What a client that looks once comes back with. -/
inductive Poll (α : Type) where
  | ready (value : α)
  | failed (error : ClientError)
  /-- It would have to wait. -/
  | pending
deriving Repr

/-- The number of events that a backlog holds. -/
def backlogLimit : Nat := 1024

/-- A client with its handle, the number of its receiver and the events it read but did not use. -/
structure Client where
  submitter : Submitter
  receiver : Nat
  backlog : List Event := []
deriving Repr

namespace Client

/-- Subscribes to the stream of the turtle of a handle. -/
def connect (submitter : Submitter) (bus : Bus) : Except Fault (Client × Bus) := do
  let (receiver, bus) ← bus.subscribe submitter.turtleId
  return ({ submitter, receiver }, bus)

/-- Appends an event to a backlog; a full one loses its oldest event. -/
def keep (backlog : List Event) (event : Event) : List Event :=
  (if backlog.length < backlogLimit then backlog else backlog.tail) ++ [event]

/-- The response that an event carries, if it answers the submission of that number. -/
def answerTo? (id : Nat) (event : Event) : Option Response :=
  (Response.ofEvent? event).filter (·.id = id)

/-- The first response to a submission among some events, and the events without it. -/
def claim? (id : Nat) : List Event → Option (Response × List Event)
  | [] => none
  | event :: rest =>
    match answerTo? id event with
    | some response => some (response, rest)
    | none => (claim? id rest).map fun (response, rest) => (response, event :: rest)

/-- Reads events up to the response to a submission. The others go to the backlog. Answers the
response if it came, the backlog, and the events left unread. -/
def readUntil (id : Nat) (backlog : List Event) :
    List Event → Option Response × List Event × List Event
  | [] => (none, backlog, [])
  | event :: unread =>
    match answerTo? id event with
    | some response => (some response, backlog, unread)
    | none => readUntil id (keep backlog event) unread

/-- What it means for a client that its receiver has no event. -/
def verdict {α : Type} (client : Client) (reception : Reception) : Poll α :=
  match reception with
  | .lagged missed => .failed (.lagged client.submitter.turtleId missed)
  | .closed => .failed (.streamClosed client.submitter.turtleId)
  | .empty | .event _ => .pending

/-- Looks for the response to a submission, first in the backlog and then in the stream. -/
def waitFor (client : Client) (id : Nat) (receiver : Receiver) :
    Poll Response × Client × Receiver :=
  match claim? id client.backlog with
  | some (response, backlog) => (.ready response, { client with backlog }, receiver)
  | none =>
    if 0 < receiver.missed then
      let (reception, receiver) := receiver.receive
      (client.verdict reception, client, receiver)
    else
      let (found, backlog, unread) := readUntil id client.backlog receiver.unread
      let client := { client with backlog }
      let receiver := { receiver with unread }
      match found with
      | some response => (.ready response, client, receiver)
      | none => (client.verdict receiver.receive.1, client, receiver)

/-- Takes the oldest event that no one claimed. -/
def next (client : Client) (receiver : Receiver) : Poll Event × Client × Receiver :=
  match client.backlog with
  | event :: backlog => (.ready event, { client with backlog }, receiver)
  | [] =>
    let (reception, receiver) := receiver.receive
    let poll := match reception with
      | .event event => .ready event
      | reception => client.verdict reception
    (poll, client, receiver)

/-- Looks through the receiver of the client, which stays with the bus. -/
def look {α : Type} (client : Client) (bus : Bus)
    (f : Client → Receiver → Poll α × Client × Receiver) : Poll α × Client × Bus :=
  match bus.receiver? client.receiver with
  | none => (.failed (.streamClosed client.submitter.turtleId), client, bus)
  | some receiver =>
    let (poll, client, receiver) := f client receiver
    (poll, client, bus.setReceiver client.receiver receiver)

/-- Gives up on a response that would have to be waited for. -/
def giveUp {α : Type} (client : Client) (id millis : Nat) : Poll α → Poll α
  | .pending => .failed (.timeout client.submitter.turtleId id millis)
  | poll => poll

end Client

end TurtleFleet
