import TurtleFleet.Block
import TurtleFleet.Fault
import TurtleFleet.Keyed

/-! The upgrades on the two sides of a turtle and the peripheral handles made from them. A handle is
made again whenever the upgrade changed or a computer was attached; until then the side is stale. -/

namespace TurtleFleet

/-- A side of a turtle that holds an upgrade. -/
inductive Side where
  | left
  | right
deriving DecidableEq, Repr

namespace Side

def all : List Side := [left, right]

def name : Side → String
  | left => "left"
  | right => "right"

end Side

inductive UpgradeKind where
  | tool
  | peripheral
deriving DecidableEq, Repr

namespace UpgradeKind

def all : List UpgradeKind := [tool, peripheral]

def name : UpgradeKind → String
  | tool => "tool"
  | peripheral => "peripheral"

end UpgradeKind

/-- A module that occupies one side of a turtle. -/
structure Upgrade where
  /-- Also the id of the item from which it is equipped. -/
  id : String
  kind : UpgradeKind
  canDig : Bool := false
  /-- The type under which a computer finds it, if it does. -/
  peripheralType : Option String := none
  /-- Its updates are of interest to an onlooker. -/
  reports : Bool := false
deriving DecidableEq, Repr

namespace Upgrade

def tool (id : String) : Upgrade := { id, kind := .tool, canDig := true }

def modem (id : String) : Upgrade := { id, kind := .peripheral, peripheralType := some "modem" }

end Upgrade

/-- The upgrades that items can be equipped as, by item. -/
abbrev Catalog := Keyed Upgrade

namespace Catalog

/-- Adds an upgrade under its own id. -/
def register (catalog : Catalog) (upgrade : Upgrade) : Catalog := catalog.insert upgrade.id upgrade

def standard : Catalog :=
  register (register Keyed.empty (.tool "diamond_pickaxe")) (.modem "wireless_modem")

end Catalog

/-- What the computer of a turtle uses to reach a peripheral. -/
structure PeripheralHandle where
  turtleId : TurtleId
  side : Side
  upgradeId : String
  peripheralType : String
  /-- Differs between handles made one after the other. -/
  generation : Nat
deriving DecidableEq, Repr

structure UpgradeIds where
  left : Option String
  right : Option String
deriving DecidableEq, Repr, Inhabited

structure Mount where
  upgrade : Option Upgrade := none
  peripheral : Option PeripheralHandle := none
  /-- The handle has to be made again once a computer is attached. -/
  stale : Bool := false
deriving DecidableEq, Repr

inductive EquipmentNotice where
  /-- The computer of the turtle gets a handle for one side, or loses it. -/
  | peripheral (turtle : TurtleId) (side : Side) (handle : Option PeripheralHandle)
  /-- An installed upgrade gets its update for a tick. -/
  | updated (upgrade : Upgrade) (turtle : TurtleId) (side : Side) (time : Nat)
deriving DecidableEq, Repr

/-- Both sides of a turtle, and the generation of the next handle. -/
structure Equipment where
  left : Mount := {}
  right : Mount := {}
  nextGeneration : Nat := 0
deriving DecidableEq, Repr

namespace Equipment

def mount (equipment : Equipment) : Side → Mount
  | .left => equipment.left
  | .right => equipment.right

def setMount (equipment : Equipment) (side : Side) (mount : Mount) : Equipment :=
  match side with
  | .left => { equipment with left := mount }
  | .right => { equipment with right := mount }

@[simp] theorem mount_setMount (equipment : Equipment) (side other : Side) (mount : Mount) :
    (equipment.setMount side mount).mount other =
      if other = side then mount else equipment.mount other := by
  cases side <;> cases other <;> rfl

def get? (equipment : Equipment) (side : Side) : Option Upgrade := (equipment.mount side).upgrade

def peripheral (equipment : Equipment) (side : Side) : Option PeripheralHandle :=
  (equipment.mount side).peripheral

def ids (equipment : Equipment) : UpgradeIds :=
  { left := (equipment.get? .left).map (·.id), right := (equipment.get? .right).map (·.id) }

/-- The handle for an upgrade, if a computer can find it. -/
def handleFor (turtle : TurtleId) (side : Side) (generation : Nat) (upgrade : Upgrade) :
    Option PeripheralHandle :=
  upgrade.peripheralType.map fun peripheralType =>
    { turtleId := turtle, side, upgradeId := upgrade.id, peripheralType, generation }

/-- Makes the handle of one side anew and tells the computer about it. -/
def refresh (equipment : Equipment) (side : Side) (turtle : TurtleId) :
    Equipment × EquipmentNotice :=
  let mount := equipment.mount side
  let handle := mount.upgrade.bind (handleFor turtle side equipment.nextGeneration)
  let generation :=
    if handle.isSome then (equipment.nextGeneration + 1) % word64 else equipment.nextGeneration
  let renewed := equipment.setMount side { mount with peripheral := handle, stale := false }
  ({ renewed with nextGeneration := generation }, .peripheral turtle side handle)

/-- Two contents of a side count as the same if both are empty or have one id. -/
def sameUpgrade (current next : Option Upgrade) : Bool :=
  match current, next with
  | none, none => true
  | some current, some next => current.id = next.id
  | _, _ => false

/-- What setting an upgrade leads to. -/
structure Change where
  changed : Bool
  equipment : Equipment
  notices : List EquipmentNotice

/-- Installs an upgrade or clears a side. With a computer attached the handle is made at once. -/
def set (equipment : Equipment) (side : Side) (upgrade : Option Upgrade) (turtle : TurtleId)
    (attached : Bool) : Change :=
  if sameUpgrade (equipment.get? side) upgrade then
    { changed := false, equipment, notices := [] }
  else
    let equipment := equipment.setMount side { upgrade, peripheral := none, stale := true }
    if attached then
      let (equipment, notice) := equipment.refresh side turtle
      { changed := true, equipment, notices := [notice] }
    else { changed := true, equipment, notices := [] }

/-- The update of one side: the upgrade is told, and a stale handle is made anew if a computer is
attached. -/
def updateSide (turtle : TurtleId) (time : Nat) (attached : Bool) (equipment : Equipment)
    (side : Side) : Equipment × List EquipmentNotice :=
  let told := (equipment.get? side).toList.map fun upgrade => .updated upgrade turtle side time
  if (equipment.mount side).stale && attached then
    let (equipment, notice) := equipment.refresh side turtle
    (equipment, told ++ [notice])
  else (equipment, told)

/-- The update for a tick: the left side, then the right one. -/
def update (equipment : Equipment) (turtle : TurtleId) (time : Nat) (attached : Bool) :
    Equipment × List EquipmentNotice :=
  let (equipment, left) := updateSide turtle time attached equipment .left
  let (equipment, right) := updateSide turtle time attached equipment .right
  (equipment, left ++ right)

/-- Forgets the handles; both sides are stale. -/
def invalidate (equipment : Equipment) : Equipment :=
  let forget (mount : Mount) : Mount := { mount with peripheral := none, stale := true }
  { equipment with left := forget equipment.left, right := forget equipment.right }

/-- The notices by which the computer of a turtle loses the handles of both sides. -/
def dismissal (turtle : TurtleId) : List EquipmentNotice :=
  Side.all.map fun side => .peripheral turtle side none

end Equipment

end TurtleFleet
