import TurtleFleet.Turtle
import TurtleFleet.Wire.Basic
import TurtleFleet.World.Memory

/-! The JSON forms of turtles and of what they carry, and of the places in a world. -/

namespace TurtleFleet

open Wire

/-! ### Places and blocks -/

instance : Wire BlockPos where
  encode pos := .obj [("x", encode pos.x), ("y", encode pos.y), ("z", encode pos.z)]
  decode? := record? do
    return { x := ← required "x" decode?, y := ← required "y" decode?,
             z := ← required "z" decode? }

instance : Wire ChunkPos where
  encode chunk := .obj [("x", encode chunk.x), ("z", encode chunk.z)]
  decode? := record? do
    return { x := ← required "x" decode?, z := ← required "z" decode? }

instance : Wire Facing := ofNames Facing.all Facing.name

instance : Wire WorldBounds where
  encode bounds :=
    .obj [("min_y", encode bounds.minY), ("max_y", encode bounds.maxY),
      ("border", encode bounds.border)]
  decode? := record? do
    return { minY := ← required "min_y" decode?, maxY := ← required "max_y" decode?,
             border := ← required "border" decode? }

instance : Wire BlockKind := ofNames BlockKind.all BlockKind.name

instance : Wire Block where
  encode block := .obj [("id", .str block.id), ("kind", encode block.kind)]
  decode? := record? do
    return { id := ← required "id" decode?, kind := ← required "kind" decode? }

/-! ### Items, fuel and animations -/

instance : Wire ItemStack where
  encode stack := .obj [("id", .str stack.id), ("count", stack.count)]
  decode? := record? do
    return { id := ← required "id" decode?, count := ← required "count" (count? word32) }

instance : Wire Inventory where
  encode inventory := .obj [("slots", encode inventory.slots)]
  decode? := record? do
    return { slots := ← required "slots" decode? }

instance : Wire FuelTank where
  encode tank := .obj [("level", tank.level), ("cap", tank.cap), ("fuel_required", tank.required)]
  decode? := record? do
    return { level := ← required "level" (count? word32), cap := ← required "cap" (count? word32),
             required := ← required "fuel_required" decode? }

instance : Wire AnimationKind := ofNames AnimationKind.all AnimationKind.name

instance : Wire Animation where
  encode animation :=
    .obj [("kind", encode animation.kind), ("progress", animation.progress),
      ("duration", animation.duration)]
  decode? := record? do
    return { kind := ← required "kind" decode?, progress := ← required "progress" (count? word32),
             duration := ← required "duration" (count? word32) }

/-! ### Equipment -/

instance : Wire Side := ofNames Side.all Side.name

instance : Wire UpgradeKind := ofNames UpgradeKind.all UpgradeKind.name

instance : Wire UpgradeIds where
  encode ids := .obj [("left", encode ids.left), ("right", encode ids.right)]
  decode? := record? do
    return { left := ← optional "left" decode?, right := ← optional "right" decode? }

instance : Wire PeripheralHandle where
  encode handle :=
    .obj [("turtle_id", .str handle.turtleId), ("side", encode handle.side),
      ("upgrade_id", .str handle.upgradeId), ("peripheral_type", .str handle.peripheralType),
      ("generation", handle.generation)]
  decode? := record? do
    return { turtleId := ← required "turtle_id" decode?, side := ← required "side" decode?,
             upgradeId := ← required "upgrade_id" decode?,
             peripheralType := ← required "peripheral_type" decode?,
             generation := ← required "generation" (count? word64) }

def Upgrade.report (upgrade : Upgrade) : Json :=
  .obj [("id", .str upgrade.id), ("kind", encode upgrade.kind), ("can_dig", upgrade.canDig),
    ("peripheral_type", encode upgrade.peripheralType)]

/-- Reads the order for an upgrade: one of the usual ones, or one with given properties. -/
def Upgrade.ofOrder? (json : Json) : Option Upgrade := do
  let id : String ← field? "id" decode? json
  match ← field? "type" text? json with
  | "tool" => return .tool id
  | "modem" => return .modem id
  | "plain" => return { id, kind := .peripheral }
  | "custom" =>
    return { id, kind := ← field? "kind" decode? json, canDig := ← field? "can_dig" decode? json,
             peripheralType := ← field? "peripheral_type" decode? json, reports := true }
  | _ => none

def Upgrade.ofOptionalOrder? : Json → Option (Option Upgrade)
  | .null => some none
  | json => (ofOrder? json).map some

/-! ### Turtles and entities -/

instance : Wire Tier := ofNames Tier.all Tier.name

instance : Wire Owner where
  encode owner := .obj [("player_id", .str owner.playerId), ("name", .str owner.name)]
  decode? := record? do
    return { playerId := ← required "player_id" decode?, name := ← required "name" decode? }

instance : Wire EntityKind where
  encode
    | .turtle => tagged "turtle" none
    | .other name => tagged "other" (some (.str name))
  decode? json := do
    match ← tagged? json with
    | ("turtle", content) => if isVoid content then some .turtle else none
    | ("other", some content) => (decode? content).map .other
    | _ => none

instance : Wire EntityRef where
  encode entity :=
    .obj [("world", .str entity.world), ("pos", encode entity.pos), ("kind", encode entity.kind),
      ("serial", entity.serial)]
  decode? := record? do
    return { world := ← required "world" decode?, pos := ← required "pos" decode?,
             kind := ← required "kind" decode?, serial := ← required "serial" (count? word64) }

def WorldError.report (error : WorldError) : Json := errorReport error.name error.message

/-- Reads an error by the name of its kind. -/
def WorldError.ofJson? (json : Json) : Option WorldError := do
  match ← field? "kind" text? json with
  | "UnknownWorld" => return unknownWorld (← field? "world" decode? json)
  | "Occupied" => return occupied (← field? "world" decode? json) (← field? "pos" decode? json)
  | "NotLoaded" => return notLoaded (← field? "world" decode? json) (← field? "pos" decode? json)
  | "SpawnRejected" => return spawnRejected (← field? "reason" decode? json)
  | _ => none

instance : Wire TurtleSpec where
  encode spec :=
    .obj [("turtle_id", .str spec.turtleId), ("world", .str spec.world), ("pos", encode spec.pos),
      ("facing", encode spec.facing), ("tier", encode spec.tier), ("owner", encode spec.owner),
      ("label", encode spec.label), ("fuel_level", spec.fuelLevel),
      ("inventory", encode spec.inventory)]
  decode? := record? do
    return { turtleId := ← required "turtle_id" decode?, world := ← required "world" decode?,
             pos := ← required "pos" decode?, facing := ← defaulted "facing" .north decode?,
             tier := ← defaulted "tier" .normal decode?, owner := ← defaulted "owner" none decode?,
             label := ← defaulted "label" none decode?,
             fuelLevel := ← defaulted "fuel_level" 0 (count? word32),
             inventory := ← defaulted "inventory" {} decode? }

instance : Wire TurtleSnapshot where
  encode snapshot :=
    .obj [("turtle_id", .str snapshot.turtleId), ("tier", encode snapshot.tier),
      ("world", .str snapshot.world), ("pos", encode snapshot.pos),
      ("facing", encode snapshot.facing), ("selected_slot", snapshot.selectedSlot),
      ("inventory", encode snapshot.inventory), ("fuel_level", snapshot.fuelLevel),
      ("fuel_limit", snapshot.fuelLimit), ("upgrades", encode snapshot.upgrades),
      ("owner", encode snapshot.owner), ("label", encode snapshot.label)]
  decode? := record? do
    return { turtleId := ← required "turtle_id" decode?, tier := ← required "tier" decode?,
             world := ← required "world" decode?, pos := ← required "pos" decode?,
             facing := ← required "facing" decode?,
             selectedSlot := ← required "selected_slot" (count? word64),
             inventory := ← required "inventory" decode?,
             fuelLevel := ← required "fuel_level" (count? word32),
             fuelLimit := ← required "fuel_limit" (count? word32),
             upgrades := ← required "upgrades" decode?, owner := ← optional "owner" decode?,
             label := ← optional "label" decode? }

end TurtleFleet
