import TurtleFleet.Proofs.Endings
import TurtleFleet.Proofs.Ground
import TurtleFleet.Proofs.Memory
import TurtleFleet.Proofs.Wiring

/-! Conservation: items only change their place. What a turtle holds in its slots and on its sides and
the block that a command digs out or places make up one account for every kind of item, which no
command but refuelling changes, whether it succeeds or is refused half-way. -/

namespace TurtleFleet

/-! ### Accounts -/

/-- A catalog that was built up by registering upgrades. -/
inductive Catalog.Built : Catalog → Prop where
  | empty : Built Keyed.empty
  | register {catalog : Catalog} (built : Built catalog) (upgrade : Upgrade) :
      Built (catalog.register upgrade)

theorem Catalog.Built.id_eq {catalog : Catalog} (built : catalog.Built) {item : String}
    {upgrade : Upgrade} (known : catalog.get? item = some upgrade) : upgrade.id = item := by
  induction built with
  | empty => cases known
  | register built other ih =>
    rw [Catalog.register, Keyed.get?_insert] at known
    split at known
    · rename_i same
      cases known
      exact same.symm
    · exact ih known

namespace Equipment

/-- The number of sides with an upgrade of the given id. -/
def count (equipment : Equipment) (item : String) : Nat :=
  Side.all.countP fun side => (equipment.get? side).any (·.id = item)

/-- One if the upgrade has the given id. -/
def weight (item : String) (upgrade : Option Upgrade) : Nat :=
  if upgrade.any (·.id = item) then 1 else 0

theorem weight_of_same {current next : Option Upgrade} (same : sameUpgrade current next = true)
    (item : String) : weight item current = weight item next := by
  rcases current with _ | current <;> rcases next with _ | next
  · rfl
  · cases same
  · cases same
  · have ids : current.id = next.id := of_decide_eq_true same
    simp only [weight, Option.any_some, ids]

theorem count_eq (equipment : Equipment) (item : String) :
    equipment.count item =
      weight item (equipment.get? .left) + weight item (equipment.get? .right) := by
  unfold count weight Side.all
  simp only [List.countP_cons, List.countP_nil]
  omega

/-- Only the side that is set comes to hold the upgrade, and only if it held another one. -/
theorem get?_set (equipment : Equipment) (side : Side) (upgrade : Option Upgrade)
    (turtle : TurtleId) (attached : Bool) (other : Side) :
    (equipment.set side upgrade turtle attached).equipment.get? other =
      if other = side ∧ sameUpgrade (equipment.get? side) upgrade = false then upgrade
      else equipment.get? other := by
  unfold set
  by_cases same : sameUpgrade (equipment.get? side) upgrade = true
  · simp [same]
  · rw [if_neg same, Bool.eq_false_iff.mpr same]
    simp only [and_true]
    split
    · exact (congrArg Mount.upgrade (mount_renewed equipment turtle side upgrade other)).trans
        (apply_ite ..)
    · exact (congrArg Mount.upgrade (mount_setMount equipment side other _)).trans (apply_ite ..)

/-- Installing an upgrade changes one side of the account. -/
theorem count_set (equipment : Equipment) (side : Side) (upgrade : Option Upgrade)
    (turtle : TurtleId) (attached : Bool) (item : String) :
    (equipment.set side upgrade turtle attached).equipment.count item +
        weight item (equipment.get? side) =
      equipment.count item + weight item upgrade := by
  rw [count_eq, count_eq, get?_set, get?_set]
  by_cases same : sameUpgrade (equipment.get? side) upgrade = true
  · simp [same, weight_of_same same]
  · rw [Bool.eq_false_iff.mpr same]
    cases side <;> simp <;> omega

end Equipment

namespace MemoryWorld

/-- One if the place, if there is one, shows the solid block of the given id. -/
def solidAt (memory : MemoryWorld) (world : WorldId) (place : Option BlockPos) (item : String) : Nat :=
  if place.any (fun pos => memory.block world pos = .solid item) then 1 else 0

theorem solidAt_of_block {memory : MemoryWorld} {world : WorldId} {pos : BlockPos} {block : Block}
    (seen : memory.block world pos = block) (item : String) :
    memory.solidAt world (some pos) item = if block = .solid item then 1 else 0 := by
  simp [solidAt, seen]

theorem weight_solid {block : Block} (solid : block.kind = .solid) (item : String) :
    (if block = .solid item then 1 else 0) = Inventory.countOf item (some (.single block.id)) := by
  obtain ⟨id, kind⟩ := block
  cases solid
  by_cases same : id = item <;> simp [Block.solid, Inventory.countOf, ItemStack.single, same]

/-- A block that was written is seen, unless there is a turtle in its place. -/
theorem block_of_setBlock {memory after : MemoryWorld} {world : WorldId} {pos : BlockPos}
    {block : Block} (free : (memory.block world pos).kind ≠ .turtle)
    (written : memory.setBlock world pos block = (.ok (), after)) : after.block world pos = block := by
  rw [block_written written (vacant_of_block free).1, if_pos ⟨rfl, rfl⟩]

end MemoryWorld

/-! ### The account of a command -/

/-- The items of a kind in the slots and on the sides of a turtle. -/
def Turtle.holdings (turtle : Turtle) (item : String) : Nat :=
  turtle.inventory.total item + turtle.equipment.count item

namespace TurtleCommand

/-- The place at which a command digs or places a block. -/
def reach? (turtle : Turtle) : TurtleCommand → Option BlockPos
  | dig direction _ => some (direction.target turtle)
  | place direction => some (direction.target turtle)
  | _ => none

def isRefuel : TurtleCommand → Bool
  | refuel _ => true
  | _ => false

namespace Ending

variable {context : Context} {turtle left : Turtle} {memory after : MemoryWorld}
  {command : TurtleCommand} {result : Except Stop (List Json)} {notices : List EquipmentNotice}

/-- Whatever a command does to the slots, it takes items out of them or puts items into them. -/
theorem handled (ending : command.Ending context turtle memory result left after notices) :
    turtle.inventory.Handled left.inventory := by
  have displaced {pos : BlockPos} {there : Except Stop Bool} {left : Turtle} {after : MemoryWorld}
      (relocated : Action.relocation turtle memory turtle.world pos = (there, left, after)) :
      turtle.inventory.Handled left.inventory := by
    obtain ⟨entity, same⟩ := Action.relocation_turtle relocated
    rw [same]
    exact .kept
  have taken {count : Nat} {stack : Option ItemStack} {spared : Inventory}
      (took : turtle.inventory.take turtle.selectedSlot count = (stack, spared)) :
      turtle.inventory.Handled spared := by
    have once := (Inventory.Handled.kept : turtle.inventory.Handled _).took turtle.selectedSlot count
    rwa [took] at once
  cases ending with
  | unmoved clear refused => exact displaced refused
  | broken clear stopped => exact displaced stopped
  | @moved direction between _ clear relocated =>
    have there : turtle.inventory.Handled between.inventory := displaced relocated
    rw [Turtle.inventory_beginning]
    exact there
  | turned direction =>
    rw [Turtle.inventory_beginning]
    exact .kept
  | dug tool solid free stowed written =>
    rw [Turtle.inventory_beginning]
    exact .insertAlong .kept (Nat.le_refl 1) stowed
  | placed held placeable written =>
    rw [Turtle.inventory_beginning]
    exact taken rfl
  | overflown took overflow => exact taken took
  | burnt required more held burns took =>
    rw [Turtle.inventory_beginning]
    exact taken took
  | returned apart took moves =>
    obtain ⟨_, _, some, _⟩ := Inventory.take_eq_some took
    exact (taken took).moves some moves
  | transferred small apart took arrived moves =>
    obtain ⟨_, _, some, _⟩ := Inventory.take_eq_some took
    rw [Turtle.inventory_beginning]
    exact (taken took).moves some moves
  | equipped offered stowed =>
    rw [Turtle.inventory_beginning]
    cases offered with
    | nothing empty => exact .stows .kept stowed
    | item held known => exact (taken rfl).stows stowed
  | _ => exact .kept

theorem balanced (ending : command.Ending context turtle memory result left after notices)
    (sound : turtle.inventory.Sound) (built : context.catalog.Built)
    (other : command.isRefuel = false) (item : String) :
    left.holdings item + after.solidAt turtle.world (command.reach? turtle) item =
      turtle.holdings item + memory.solidAt turtle.world (command.reach? turtle) item := by
  have begun (turtle : Turtle) (kind : AnimationKind) :
      (turtle.beginning kind).2.holdings item = turtle.holdings item := by
    rw [Turtle.holdings, Turtle.inventory_beginning, Turtle.equipment_beginning]
    rfl
  have displaced {pos : BlockPos} {there : Except Stop Bool} {left : Turtle} {after : MemoryWorld}
      (relocated : Action.relocation turtle memory turtle.world pos = (there, left, after)) :
      left.holdings item = turtle.holdings item := by
    obtain ⟨entity, same⟩ := Action.relocation_turtle relocated
    rw [same]
    rfl
  cases ending with
  | obstructed first => rfl
  | unmoved clear refused => exact congrArg (· + 0) (displaced refused)
  | broken clear stopped => exact congrArg (· + 0) (displaced stopped)
  | @moved direction left after clear relocated =>
    have charged : Turtle.holdings { left with fuel := (left.fuel.consume Action.moveCost).2 } item =
        left.holdings item := rfl
    exact congrArg (· + 0) (((begun _ _).trans charged).trans (displaced relocated))
  | turned direction => exact congrArg (· + 0) (begun _ _)
  | refused other stop => rfl
  | @dug direction wanted side inventory after tool solid free stowed written =>
    have turned : (memory.block turtle.world (direction.target turtle)).kind ≠ .turtle := by
      rw [solid]
      nofun
    have dug := MemoryWorld.block_of_setBlock turned written
    have stored := Inventory.total_insertFrom stowed item
    have before : memory.solidAt turtle.world (some (direction.target turtle)) item = _ :=
      (MemoryWorld.solidAt_of_block rfl item).trans (MemoryWorld.weight_solid solid item)
    have empty : Block.air ≠ Block.solid item := by simp [Block.air, Block.solid]
    have left : after.solidAt turtle.world (some (direction.target turtle)) item = 0 :=
      (MemoryWorld.solidAt_of_block dug item).trans (if_neg empty)
    have nothing : Inventory.countOf item none = 0 := rfl
    rw [begun]
    simp only [reach?, before, left, Turtle.holdings]
    omega
  | @placed direction stack after held placeable written =>
    have passable : (memory.block turtle.world (direction.target turtle)).isPassable = true := by
      simp only [MemoryWorld.isPlaceable, Bool.and_eq_true] at placeable
      exact placeable.1.2
    have apart (kind : BlockKind) (other : kind ≠ .air ∧ kind ≠ .liquid) :
        (memory.block turtle.world (direction.target turtle)).kind ≠ kind := by
      intro same
      simp [Block.isPassable, same, other] at passable
    have placed := MemoryWorld.block_of_setBlock (apart .turtle (by decide)) written
    have less := Inventory.total_take_one held (sound _ _ held).some item
    have before : memory.solidAt turtle.world (some (direction.target turtle)) item = 0 := by
      rw [MemoryWorld.solidAt_of_block rfl item, if_neg]
      exact fun same => apart .solid (by decide) (congrArg Block.kind same)
    have left : after.solidAt turtle.world (some (direction.target turtle)) item = _ :=
      (MemoryWorld.solidAt_of_block placed item).trans (MemoryWorld.weight_solid rfl item)
    rw [begun]
    simp only [reach?, before, left, Turtle.holdings, Block.solid]
    omega
  | detected direction => rfl
  | inspected seen some => rfl
  | selected small => rfl
  | unburnt idle => cases other
  | overflown taken overflow => cases other
  | burnt required more held burns taken => cases other
  | untransferred small idle => rfl
  | @returned slot count taken spared inventory apart took moves =>
    have kept := moves.total sound took apart item
    exact congrArg (· + turtle.equipment.count item + 0) kept
  | transferred small apart took arrived moves =>
    have kept := moves.total sound took apart item
    rw [begun]
    exact congrArg (· + turtle.equipment.count item + 0) kept
  | unequipped empty free => rfl
  | @equipped side incoming spared inventory offered stowed =>
    have weighed (upgrade : Upgrade) : Equipment.weight item (some upgrade) =
        Inventory.countOf item (some (.single upgrade.id)) := by
      by_cases same : upgrade.id = item <;>
        simp [Equipment.weight, Inventory.countOf, ItemStack.single, same]
    have taken : spared.total item + Equipment.weight item incoming =
        turtle.inventory.total item := by
      cases offered with
      | nothing empty => rfl
      | @item stack upgrade held known =>
        rw [weighed, built.id_eq known]
        exact Inventory.total_take_one held (sound _ _ held).some item
    have stored : inventory.total item =
        spared.total item + Equipment.weight item (turtle.equipment.get? side) := by
      generalize turtle.equipment.get? side = outgoing at stowed ⊢
      cases stowed with
      | nothing => rfl
      | @item upgrade after fits =>
        rw [weighed]
        exact Inventory.total_insertFrom fits item
    have exchanged := turtle.equipment.count_set side incoming turtle.id turtle.attached item
    rw [begun]
    simp only [Turtle.holdings, Turtle.setUpgrade]
    omega
  | told => rfl

/-- Refuelling leaves upgrades and blocks alone, and takes nothing or as many items of the selected
slot as are wanted and there. -/
theorem refuelled {limit : Nat}
    (ending : (refuel limit).Ending context turtle memory result left after notices) :
    left.equipment = turtle.equipment ∧ after = memory ∧
      (left.inventory = turtle.inventory ∨
        ∃ stack, turtle.inventory.get? turtle.selectedSlot = some stack ∧
          left.inventory = turtle.inventory.put turtle.selectedSlot
            (stack.less (min limit stack.count))) := by
  have taken {burnt : ItemStack} {inventory : Inventory}
      (took : turtle.inventory.take turtle.selectedSlot limit = (some burnt, inventory)) :
      ∃ stack, turtle.inventory.get? turtle.selectedSlot = some stack ∧
        inventory =
          turtle.inventory.put turtle.selectedSlot (stack.less (min limit stack.count)) := by
    obtain ⟨stack, held, _, counted, _, left⟩ := Inventory.take_eq_some took
    exact ⟨stack, held, counted ▸ left⟩
  cases ending with
  | refused other stop => exact ⟨rfl, rfl, .inl rfl⟩
  | unburnt idle => exact ⟨rfl, rfl, .inl rfl⟩
  | overflown took overflow => exact ⟨rfl, rfl, .inr (taken took)⟩
  | @burnt _ value stack burnt inventory required more held burns took =>
    rw [Turtle.equipment_beginning, Turtle.inventory_beginning]
    exact ⟨rfl, rfl, .inr (taken took)⟩

end Ending

end TurtleCommand

namespace Round

variable {M : Type} [WorkMonitor M]

/-- No item is lost or duplicated. Whatever command the fleet runs for a turtle with sound slots, and
however the command ends, the slots are sound afterwards. For every kind of item, the number of items
in the slots, of upgrades on the sides and of solid blocks where the command digs or places is the
same as before, unless the command refuels. Refuelling leaves the upgrades and the world alone, and
takes out of the selected slot either nothing or all that is wanted and there. -/
theorem no_item_is_lost (round : Round TurtleCommand M MemoryWorld) (id : TurtleId)
    (member : Member TurtleCommand) (entry : QueueEntry TurtleCommand) (nanos : Nat)
    (sound : member.turtle.inventory.Sound) (built : round.stage.fleet.catalog.Built) :
    ∃ served, (round.execute id member entry nanos).stage.fleet.members.get? id = some served ∧
      served.turtle.inventory.Sound ∧
      (entry.command.isRefuel = false → ∀ item,
        served.turtle.inventory.total item + served.turtle.equipment.count item +
            (round.execute id member entry nanos).stage.world.solidAt member.turtle.world
              (entry.command.reach? member.turtle) item =
          member.turtle.inventory.total item + member.turtle.equipment.count item +
            round.stage.world.solidAt member.turtle.world
              (entry.command.reach? member.turtle) item) ∧
      ∀ limit, entry.command = .refuel limit →
        served.turtle.equipment = member.turtle.equipment ∧
        (round.execute id member entry nanos).stage.world = round.stage.world ∧
        (served.turtle.inventory = member.turtle.inventory ∨
          ∃ stack, member.turtle.inventory.get? member.turtle.selectedSlot = some stack ∧
            served.turtle.inventory = member.turtle.inventory.put member.turtle.selectedSlot
              (stack.less (min limit stack.count))) := by
  obtain ⟨served, notices, found, ending, _⟩ := round.execute_ends id member entry nanos
  refine ⟨served, found, sound.handled ending.handled, fun other item => ?_, fun limit same => ?_⟩
  · exact ending.balanced sound built other item
  · rw [same] at ending
    exact ending.refuelled

/-- A miner with a full slot and a free one. -/
def miner : Member TurtleCommand :=
  { registration := 0
    turtle := { Turtle.unplaced { Sample.scout with
        inventory := { slots := [some ⟨"stone", stackLimit⟩, none] } } Sample.fleet.settings with
      equipment := { left := { upgrade := some (.tool "diamond_pickaxe") } } }
    queue := {} }

/-- The miner in front of a stone. -/
def quarry : Round TurtleCommand WorkBudget MemoryWorld :=
  { stage := { Sample.stage with
      fleet := Sample.fleet.setMember "scout" miner
      world := Sample.stage.world.putBlock "overworld" ⟨0, 64, -1⟩ (.solid "stone") }
    report := { time := 1 } }

def mined : Stage TurtleCommand WorkBudget MemoryWorld :=
  (quarry.execute "scout" miner { id := 1, command := .dig .front none } 0).stage

theorem no_item_is_lost_quarry :
    miner.turtle.inventory.Sound ∧ quarry.stage.fleet.catalog.Built ∧
      miner.turtle.inventory.total "stone" = 64 ∧
      quarry.stage.world.solidAt "overworld" (some ⟨0, 64, -1⟩) "stone" = 1 ∧
      mined.world.solidAt "overworld" (some ⟨0, 64, -1⟩) "stone" = 0 ∧
      ∃ served, mined.fleet.members.get? "scout" = some served ∧
        served.turtle.inventory.Sound ∧
        served.turtle.inventory.total "stone" + served.turtle.equipment.count "stone" = 65 := by
  have sound : miner.turtle.inventory.Sound := by decide
  have built : quarry.stage.fleet.catalog.Built := .register (.register .empty _) _
  have gone : mined.world.solidAt "overworld" (some ⟨0, 64, -1⟩) "stone" = 0 := by rfl
  obtain ⟨served, found, still, balanced, _⟩ :=
    no_item_is_lost quarry "scout" miner { id := 1, command := .dig .front none } 0 sound built
  refine ⟨sound, built, rfl, rfl, gone, served, found, still, ?_⟩
  have account : served.turtle.inventory.total "stone" + served.turtle.equipment.count "stone" +
      mined.world.solidAt "overworld" (some ⟨0, 64, -1⟩) "stone" = 65 := balanced rfl "stone"
  rwa [gone] at account

end Round

end TurtleFleet
