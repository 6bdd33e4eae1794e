import TurtleFleet.Command.Action

/-! Responses: the outcome of one command, and the event that carries it back to whoever submitted
the command. -/

namespace TurtleFleet

structure Event where
  turtleId : TurtleId
  name : String
  args : List Json
deriving BEq, Repr

def responseEvent : String := "turtle_response"

/-- The outcome of one command, under the number that its submission was given. -/
structure Response where
  id : Nat
  success : Bool
  payload : List Json := []
  message : Option String := none
deriving BEq, Repr

namespace Response

def failure (id : Nat) (message : String) : Response :=
  { id, success := false, message := some message }

def ofResult (id : Nat) : Except Stop (List Json) → Response
  | .ok payload => { id, success := true, payload }
  | .error stop => failure id stop.message

/-- The arguments of the event: the number, then true and the payload, or false and the message. -/
def toArgs (response : Response) : List Json :=
  .int response.id :: .bool response.success ::
    if response.success then response.payload else [.str (response.message.getD "")]

/-- The event that carries the response on the stream of a turtle. -/
def toEvent (response : Response) (turtle : TurtleId) : Event :=
  { turtleId := turtle, name := responseEvent, args := response.toArgs }

/-- Reads arguments; a failure without a text has the empty message. -/
def ofArgs? : List Json → Option Response
  | .int id :: .bool success :: rest =>
    if 0 ≤ id ∧ id < word64 then
      some <|
        if success then { id := id.toNat, success, payload := rest }
        else
          failure id.toNat (match rest.head? with
            | some (.str text) => text
            | _ => "")
    else none
  | _ => none

/-- The response that an event carries, if it is a response event. -/
def ofEvent? (event : Event) : Option Response :=
  if event.name = responseEvent then ofArgs? event.args else none

end Response

end TurtleFleet
