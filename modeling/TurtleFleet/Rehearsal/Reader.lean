import TurtleFleet.Rehearsal.Script

/-! Reading scripted commands. A step that cannot be read does not spoil its script. -/

namespace TurtleFleet

open Wire

def ScriptAction.ofJson? (json : Json) : Option ScriptAction := do
  let slot := field? "slot" (count? word64) json
  let world : Option WorldId := field? "world" decode? json
  let pos : Option BlockPos := field? "pos" decode? json
  match ← field? "do" text? json with
  | "begin" => return begin (← field? "kind" decode? json)
  | "set_facing" => return setFacing (← field? "facing" decode? json)
  | "select" => return select (← slot)
  | "set_label" => return setLabel (← field? "label" decode? json)
  | "fuel_add" => return addFuel (← field? "amount" (count? word32) json)
  | "fuel_consume" => return consumeFuel (← field? "amount" (count? word32) json)
  | "fuel_reconfigure" =>
    return reconfigureFuel (← field? "tier" decode? json)
      (← fieldOr? "config" none (fun json => (decode? json).map some) json)
  | "inv_set" => return put (← slot) (← field? "stack" decode? json)
  | "inv_take" => return take (← slot) (← field? "count" (count? word32) json)
  | "inv_insert_into" => return insertInto (← slot) (← field? "stack" decode? json)
  | "inv_insert_from" => return insertFrom (← slot) (← field? "stack" decode? json)
  | "set_upgrade" =>
    return setUpgrade (← field? "side" decode? json)
      (← field? "upgrade" Upgrade.ofOptionalOrder? json) (← field? "registry" decode? json)
  | "relocate" => return relocate (← world) (← pos)
  | "set_block" => return setBlock (← world) (← pos) (← field? "block" decode? json)
  | "block" => return lookAt (← world) (← pos)
  | "time" => return tellTime
  | "config" => return tellSettings
  | "catalog" => return lookUp (← field? "id" decode? json)
  | "panic" => return raise (← field? "message" decode? json)
  | "panic_static" => return raise (some "boom")
  | _ => none

/-- Reads how a script ends. Without a failure it finishes. -/
def ScriptEnding.ofJson? (json : Json) : Option ScriptEnding :=
  match json.field? "rejected", json.field? "internal" with
  | some text, _ => (decode? text).map fun text => .stopped (.rejected text)
  | none, some text => (decode? text).map fun text => .stopped (.internal text)
  | none, none => (fieldOr? "ok" [] decode? json).map .finished

namespace ScriptedCommand

/-- Reads a command in which scripts are nested at most so deep. -/
def ofJsonWithin? : (depth : Nat) → Json → Option ScriptedCommand
  | 0, _ => none
  | depth + 1, json => do
    if field? "type" text? json = some "script" then
      let actions : List Json ← fieldOr? "actions" [] decode? json
      let steps := actions.map fun action =>
        if field? "do" text? action = some "run" then
          match (action.field? "command").bind (ofJsonWithin? depth) with
          | some command => .run command
          | none => .unreadable
        else
          match ScriptAction.ofJson? action with
          | some action => .act action
          | none => .unreadable
      return script (← fieldOr? "name" "script" decode? json) steps
        (← fieldOr? "result" (.finished []) ScriptEnding.ofJson? json)
    else
      (decode? json).map standard

/-- Reads a standard command or a script. -/
def ofJson? (json : Json) : Option ScriptedCommand := ofJsonWithin? (json.depth + 1) json

end ScriptedCommand

end TurtleFleet
