import TurtleFleet.Command.Interaction
import TurtleFleet.Command.Movement

/-! What a turtle does with its slots, its fuel and its sides. With these commands the standard ones are
complete. -/

namespace TurtleFleet.Action

variable {W : Type} [World W]

def select (slot : Nat) : Action W (List Json) := do
  let (selected, turtle) := (← turtle).select slot
  unless selected do reject "Slot number out of range"
  modifyTurtle fun _ => turtle
  return []

/-- Burns items of the selected slot. A limit of zero only asks whether they burn. -/
def refuel (settings : Settings) (limit : Nat) : Action W (List Json) := do
  let turtle ← turtle
  unless turtle.fuel.required do return []
  let slot := turtle.selectedSlot
  let some stack := turtle.inventory.get? slot | reject "No items to combust"
  let some value := settings.fuelValue? stack.id | reject "Items not combustible"
  if limit = 0 then return []
  let (some burnt, inventory) := turtle.inventory.take slot limit | reject "No items to combust"
  setInventory inventory
  let (gain, fuel) := turtle.fuel.add (min (value * burnt.count) (word32 - 1))
  modifyTurtle ({ · with fuel })
  let _ ← attempt gain
  beginAnimation .wait
  return []

/-- Moves items from the selected slot into another one; what does not fit goes back. -/
def transferTo (slot count : Nat) : Action W (List Json) := do
  unless slot < slotCount do reject "Slot number out of range"
  let turtle ← turtle
  let source := turtle.selectedSlot
  if slot = source ∨ count = 0 then return []
  let (some taken, inventory) := turtle.inventory.take source count | return []
  let (rest, inventory) := inventory.insertInto slot taken
  setInventory inventory
  let moved ← match rest with
    | none => pure taken.count
    | some rest => do
      let moved ← attempt (checkedSub taken.count rest.count)
      setInventory (inventory.insertInto source rest).2
      pure moved
  if moved = 0 then reject noSpace
  beginAnimation .shortWait
  return []

/-- Exchanges the upgrade of a side with the selected slot. An empty slot takes the upgrade off. -/
def equip (catalog : Catalog) (side : Side) : Action W (List Json) := do
  let turtle ← turtle
  let slot := turtle.selectedSlot
  let incoming ← match turtle.inventory.get? slot with
    | none => pure none
    | some stack =>
      match catalog.get? stack.id with
      | some upgrade => pure (some upgrade)
      | none => reject "Not a valid upgrade"
  let outgoing := turtle.equipment.get? side
  if incoming.isNone ∧ outgoing.isNone then return []
  let inventory := if incoming.isSome then (turtle.inventory.take slot 1).2 else turtle.inventory
  let inventory ← match outgoing with
    | some upgrade => stow inventory slot (.single upgrade.id)
    | none => pure inventory
  setInventory inventory
  let _ ← setUpgrade side incoming turtle.attached
  beginAnimation .wait
  return []

def fuelLevel : Action W (List Json) := do
  let fuel := (← turtle).fuel
  return [if fuel.required then .int fuel.level else .str "unlimited"]

end TurtleFleet.Action

namespace TurtleFleet

def TurtleCommand.execute {W : Type} [World W] (command : TurtleCommand) (context : Context) :
    Action W (List Json) :=
  match command with
  | move direction => Action.move direction
  | turn direction => Action.turn direction
  | dig direction side => Action.dig direction side
  | place direction => Action.place direction
  | detect direction => Action.detect direction
  | inspect direction => Action.inspect direction
  | select slot => Action.select slot
  | refuel limit => Action.refuel context.settings limit
  | transferTo slot count => Action.transferTo slot count
  | equip side => Action.equip context.catalog side
  | getFuelLevel => Action.fuelLevel

instance : Command TurtleCommand where
  name := TurtleCommand.name
  execute := TurtleCommand.execute

end TurtleFleet
