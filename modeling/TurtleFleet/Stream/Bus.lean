import TurtleFleet.Fleet.Basic

/-! The event streams of the turtles. A receiver gets every event that is published on the stream of
its turtle from the moment it subscribed. It keeps the latest events only, and tells once how many
older ones it lost. A closed stream can still be read to its end. A stream that would have to keep
too many events cannot be opened. -/

namespace TurtleFleet

inductive Reception where
  | event (event : Event)
  /-- So many events were lost before the oldest one that is still there. -/
  | lagged (missed : Nat)
  /-- Nothing yet. -/
  | empty
  /-- Nothing any more. -/
  | closed
deriving BEq, Repr

structure Receiver where
  turtleId : TurtleId
  /-- Whether events may still come. -/
  isOpen : Bool := true
  /-- The events that were not read yet, from the oldest one on. -/
  unread : List Event := []
  /-- The number of events lost since the last reading. -/
  missed : Nat := 0
deriving Repr

namespace Receiver

/-- Keeps an event; one event beyond the capacity costs the oldest one. -/
def keep (receiver : Receiver) (capacity : Nat) (event : Event) : Receiver :=
  let unread := receiver.unread ++ [event]
  if unread.length ≤ capacity then { receiver with unread }
  else { receiver with unread := unread.tail, missed := receiver.missed + 1 }

/-- Reads on. A loss is told before the next event. -/
def receive (receiver : Receiver) : Reception × Receiver :=
  if 0 < receiver.missed then (.lagged receiver.missed, { receiver with missed := 0 })
  else
    match receiver.unread with
    | event :: unread => (.event event, { receiver with unread })
    | [] => (if receiver.isOpen then .empty else .closed, receiver)

/-- Whether events of the turtle reach the receiver. -/
def listensTo (receiver : Receiver) (turtle : TurtleId) : Bool :=
  receiver.isOpen && receiver.turtleId = turtle

end Receiver

/-- The streams of all turtles, as their receivers see them. -/
structure Bus where
  /-- The number of events that a receiver has to keep at least. -/
  demand : Nat
  /-- The receivers by number. -/
  receivers : List (Nat × Receiver) := []
  nextReceiver : Nat := 0
deriving Repr

namespace Bus

/-- A bus on which receivers keep at least so many events, and never none. -/
def ofCapacity (capacity : Nat) : Bus := { demand := max capacity 1 }

def ofSettings (settings : Settings) : Bus := ofCapacity settings.eventCapacity

/-- The number of events that a receiver keeps: the next power of two. -/
def capacity (bus : Bus) : Nat := bus.demand.nextPowerOfTwo

/-- The bytes that a stream sets aside for one event. -/
def eventSize : Nat := 96

/-- Checks that streams can be opened: the number of events and their size have to fit into signed
words. -/
def checkSize (bus : Bus) : Except Fault Unit :=
  if signed64 ≤ bus.demand then .error .streamTooLong
  else if signed64 ≤ bus.capacity * eventSize then .error .streamTooLarge
  else .ok ()

/-- Subscribes to the stream of a turtle and answers the number of the receiver. -/
def subscribe (bus : Bus) (turtle : TurtleId) : Except Fault (Nat × Bus) := do
  bus.checkSize
  let number := bus.nextReceiver
  return (number, { bus with
    receivers := bus.receivers ++ [(number, { turtleId := turtle })]
    nextReceiver := number + 1 })

def receiver? (bus : Bus) (number : Nat) : Option Receiver := bus.receivers.lookup number

/-- Changes the receivers of which the condition holds. -/
def changeWhere (bus : Bus) (condition : Nat → Receiver → Bool) (f : Receiver → Receiver) : Bus :=
  { bus with
    receivers := bus.receivers.map fun (number, receiver) =>
      (number, if condition number receiver then f receiver else receiver) }

def setReceiver (bus : Bus) (number : Nat) (receiver : Receiver) : Bus :=
  bus.changeWhere (fun other _ => other = number) fun _ => receiver

def dropReceiver (bus : Bus) (number : Nat) : Bus :=
  { bus with receivers := bus.receivers.filter (·.1 ≠ number) }

/-- The number of receivers that events of a turtle reach. -/
def subscriberCount (bus : Bus) (turtle : TurtleId) : Nat :=
  bus.receivers.countP (·.2.listensTo turtle)

def publish (bus : Bus) (event : Event) : Bus :=
  let capacity := bus.capacity
  bus.changeWhere (fun _ receiver => receiver.listensTo event.turtleId) (·.keep capacity event)

/-- Ends the stream of a turtle; a later subscription opens another one. -/
def close (bus : Bus) (turtle : TurtleId) : Bus :=
  bus.changeWhere (fun _ receiver => receiver.listensTo turtle) ({ · with isOpen := false })

def receive? (bus : Bus) (number : Nat) : Option (Reception × Bus) :=
  (bus.receiver? number).map fun receiver =>
    let (reception, receiver) := receiver.receive
    (reception, bus.setReceiver number receiver)

/-- Takes over one thing that was seen of a fleet. -/
def absorb (bus : Bus) : Signal → Bus
  | .published event => bus.publish event
  | .closed turtle => bus.close turtle
  | .effect _ => bus

def absorbAll (bus : Bus) (signals : List Signal) : Bus := signals.foldl absorb bus

end Bus

end TurtleFleet
