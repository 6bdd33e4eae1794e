import TurtleFleet.Animation.Player
import TurtleFleet.Equipment
import TurtleFleet.FuelTank
import TurtleFleet.Grid
import TurtleFleet.Inventory
import TurtleFleet.Text.Quoted
import TurtleFleet.Text.Reader

/-! A turtle, the parameters with which one is registered, and the snapshot from which an entity
continues as the same turtle. -/

namespace TurtleFleet

inductive EntityKind where
  | turtle
  | other (name : String)
deriving DecidableEq, Repr

/-- The text of a kind inside a message. -/
def EntityKind.describe : EntityKind → String
  | turtle => "Turtle"
  | other name => "Other(" ++ Text.quote name ++ ")"

structure EntityRef where
  world : WorldId
  pos : BlockPos
  kind : EntityKind
  serial : Nat
deriving DecidableEq, Repr

structure TurtleSpec where
  turtleId : TurtleId
  world : WorldId
  pos : BlockPos
  facing : Facing := .north
  tier : Tier := .normal
  owner : Option Owner := none
  label : Option String := none
  fuelLevel : Nat := 0
  inventory : Inventory := {}
deriving DecidableEq, Repr

/-- Everything that a new entity needs to continue as the same turtle. -/
structure TurtleSnapshot where
  turtleId : TurtleId
  tier : Tier
  world : WorldId
  pos : BlockPos
  facing : Facing
  selectedSlot : Nat
  inventory : Inventory
  fuelLevel : Nat
  fuelLimit : Nat
  upgrades : UpgradeIds
  owner : Option Owner
  label : Option String
deriving DecidableEq, Repr

structure Turtle where
  id : TurtleId
  tier : Tier
  entity : EntityRef
  facing : Facing
  selectedSlot : Nat := 0
  inventory : Inventory
  fuel : FuelTank
  equipment : Equipment := {}
  owner : Option Owner
  label : Option String
  animation : Animation
  /-- Engaged exactly while a relocation is under way. -/
  latch : Bool := false
  /-- Whether a computer is attached. -/
  attached : Bool := true
deriving DecidableEq, Repr

namespace Turtle

def ofSpec (spec : TurtleSpec) (entity : EntityRef) (settings : Settings) : Turtle :=
  { id := spec.turtleId
    tier := spec.tier
    entity
    facing := spec.facing
    inventory := spec.inventory
    fuel := ((FuelTank.forTier spec.tier settings).add spec.fuelLevel).2
    owner := spec.owner
    label := spec.label
    animation := .idle settings.animationDuration }

/-- The turtle of a specification before it has an entity. -/
def unplaced (spec : TurtleSpec) (settings : Settings) : Turtle :=
  ofSpec spec { world := spec.world, pos := spec.pos, kind := .turtle, serial := 0 } settings

def world (turtle : Turtle) : WorldId := turtle.entity.world

def pos (turtle : Turtle) : BlockPos := turtle.entity.pos

def snapshot (turtle : Turtle) : TurtleSnapshot :=
  { turtleId := turtle.id
    tier := turtle.tier
    world := turtle.world
    pos := turtle.pos
    facing := turtle.facing
    selectedSlot := turtle.selectedSlot
    inventory := turtle.inventory
    fuelLevel := turtle.fuel.level
    fuelLimit := turtle.fuel.cap
    upgrades := turtle.equipment.ids
    owner := turtle.owner
    label := turtle.label }

/-- Selects a slot, unless there is none of that number. -/
def select (turtle : Turtle) (slot : Nat) : Bool × Turtle :=
  if slot < slotCount then (true, { turtle with selectedSlot := slot }) else (false, turtle)

/-- Gives the turtle a label; a blank one is none. -/
def setLabel (turtle : Turtle) (label : Option String) : Turtle :=
  { turtle with label := label.filter fun text => !Text.isBlankText text }

/-- Sets an upgrade, telling the computer if one is attached. -/
def setUpgrade (turtle : Turtle) (side : Side) (upgrade : Option Upgrade) (attached : Bool) :
    Bool × Turtle × List EquipmentNotice :=
  let change := turtle.equipment.set side upgrade turtle.id attached
  (change.changed, { turtle with equipment := change.equipment }, change.notices)

end Turtle

end TurtleFleet
