import TurtleFleet.Command.Standard
import TurtleFleet.Fleet.Tick
import TurtleFleet.Wire.Basic
import TurtleFleet.Wire.Turtle

/-! The JSON forms of commands and of what comes back from them. -/

namespace TurtleFleet

open Wire

instance : Wire MoveDirection := ofNames MoveDirection.all MoveDirection.name

instance : Wire TurnDirection := ofNames TurnDirection.all TurnDirection.name

instance : Wire ReachDirection := ofNames ReachDirection.all ReachDirection.name

def TurtleCommand.ofTagged? : String → Option Json → Option TurtleCommand
  | "get_fuel_level", content => if isVoid content then some getFuelLevel else none
  | _, none => none
  | "move", some content => (decode? content).map move
  | "turn", some content => (decode? content).map turn
  | "dig", some content =>
    object? (do return dig (← required "direction" decode?) (← optional "side" decode?)) content
  | "place", some content => (decode? content).map place
  | "detect", some content => (decode? content).map detect
  | "inspect", some content => (decode? content).map inspect
  | "select", some content => (count? word64 content).map select
  | "refuel", some content => (count? word32 content).map refuel
  | "transfer_to", some content =>
    object? (do
      return transferTo (← required "slot" (count? word64)) (← required "count" (count? word32)))
      content
  | "equip", some content => (decode? content).map equip
  | _, _ => none

instance : Wire TurtleCommand where
  encode
    | .move direction => tagged "move" (encode direction)
    | .turn direction => tagged "turn" (encode direction)
    | .dig direction side =>
      tagged "dig" (some (.obj [("direction", encode direction), ("side", encode side)]))
    | .place direction => tagged "place" (encode direction)
    | .detect direction => tagged "detect" (encode direction)
    | .inspect direction => tagged "inspect" (encode direction)
    | .select slot => tagged "select" (some slot)
    | .refuel limit => tagged "refuel" (some limit)
    | .transferTo slot count =>
      tagged "transfer_to" (some (.obj [("slot", slot), ("count", count)]))
    | .equip side => tagged "equip" (encode side)
    | .getFuelLevel => tagged "get_fuel_level" none
  decode? json := do
    let (tag, content) ← tagged? json
    TurtleCommand.ofTagged? tag content

instance : Wire Event where
  encode event :=
    .obj [("turtle_id", .str event.turtleId), ("name", .str event.name), ("args", .arr event.args)]
  decode? := record? do
    return { turtleId := ← required "turtle_id" decode?, name := ← required "name" decode?,
             args := ← required "args" decode? }

instance : Wire Response where
  encode response :=
    .obj [("correlation_id", response.id), ("success", response.success),
      ("payload", .arr response.payload), ("message", encode response.message)]
  decode? := record? do
    return { id := ← required "correlation_id" (count? word64),
             success := ← required "success" decode?,
             payload := ← defaulted "payload" [] decode?,
             message := ← defaulted "message" none decode? }

instance : Wire ExecutedCommand where
  encode executed :=
    .obj [("turtle_id", .str executed.turtleId), ("correlation_id", executed.id),
      ("command", .str executed.command), ("success", executed.success)]
  decode? := record? do
    return { turtleId := ← required "turtle_id" decode?,
             id := ← required "correlation_id" (count? word64),
             command := ← required "command" decode?, success := ← required "success" decode? }

instance : Wire TickReport where
  encode report :=
    .obj [("time", report.time), ("executed", encode report.executed),
      ("completed", report.completed), ("deferred", encode report.deferred)]
  decode? := record? do
    return { time := ← required "time" (count? word64), executed := ← required "executed" decode?,
             completed := ← required "completed" (count? word64),
             deferred := ← required "deferred" decode? }

end TurtleFleet
