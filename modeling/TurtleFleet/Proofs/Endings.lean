import TurtleFleet.Proofs.Displacement
import TurtleFleet.Proofs.Stock
import TurtleFleet.Proofs.Visit

/-! How the standard commands end in a world held in memory: every way in which one can end is listed
once, with all its guards, the turtle and the world that it leaves behind and the notices of the
equipment. The list is obtained by running each command step by step. -/

namespace TurtleFleet

variable {α β : Type}

namespace Action

/-- Run for a turtle in a world, the action has one ending whatever else the scene is. -/
def Ends (action : Action MemoryWorld α) (turtle : Turtle) (memory : MemoryWorld)
    (result : Except Stop α) (left : Turtle) (after : MemoryWorld)
    (notices : List EquipmentNotice) : Prop :=
  ∀ scene : Scene MemoryWorld, scene.turtle = turtle → scene.world = memory →
    ∃ effects, action.outcome scene = (result, { scene with turtle := left, world := after, effects }) ∧
      noticesOf effects = noticesOf scene.effects ++ notices

namespace Ends

variable {turtle : Turtle} {memory : MemoryWorld}

theorem pure (value : α) :
    Ends (Pure.pure value : Action MemoryWorld α) turtle memory (.ok value) turtle memory [] := by
  rintro scene rfl rfl
  exact ⟨scene.effects, rfl, (List.append_nil _).symm⟩

theorem throw (stop : Stop) :
    Ends (MonadExcept.throw stop : Action MemoryWorld α) turtle memory (.error stop) turtle memory
      [] := by
  rintro scene rfl rfl
  exact ⟨scene.effects, rfl, (List.append_nil _).symm⟩

theorem bind {action : Action MemoryWorld α} {next : α → Action MemoryWorld β} {value : α}
    {between left : Turtle} {during after : MemoryWorld} {result : Except Stop β}
    {notices later : List EquipmentNotice}
    (first : Ends action turtle memory (.ok value) between during notices)
    (second : Ends (next value) between during result left after later) :
    Ends (action >>= next) turtle memory result left after (notices ++ later) := by
  intro scene same world
  obtain ⟨noted, ran, told⟩ := first scene same world
  obtain ⟨effects, ranNext, toldNext⟩ :=
    second { scene with turtle := between, world := during, effects := noted } rfl rfl
  refine ⟨effects, (outcome_bind_ok ran).trans ranNext, ?_⟩
  rw [toldNext, told, List.append_assoc]

theorem bind_error {action : Action MemoryWorld α} {next : α → Action MemoryWorld β} {stop : Stop}
    {left : Turtle} {after : MemoryWorld} {notices : List EquipmentNotice}
    (first : Ends action turtle memory (.error stop) left after notices) :
    Ends (action >>= next) turtle memory (.error stop) left after notices := by
  intro scene same world
  obtain ⟨noted, ran, told⟩ := first scene same world
  exact ⟨noted, outcome_bind_error ran, told⟩

theorem read :
    Ends (Action.turtle : Action MemoryWorld Turtle) turtle memory (.ok turtle) turtle memory [] := by
  rintro scene rfl rfl
  exact ⟨scene.effects, rfl, (List.append_nil _).symm⟩

theorem modifyTurtle (f : Turtle → Turtle) :
    Ends (Action.modifyTurtle f : Action MemoryWorld Unit) turtle memory (.ok ()) (f turtle) memory
      [] := by
  rintro scene rfl rfl
  exact ⟨scene.effects, rfl, (List.append_nil _).symm⟩

theorem attempt {outcome : Except Fault α} {value : α} (succeeds : outcome = .ok value) :
    Ends (Action.attempt outcome : Action MemoryWorld α) turtle memory (.ok value) turtle memory [] :=
  succeeds ▸ pure value

theorem attempt_error {outcome : Except Fault α} {fault : Fault} (fails : outcome = .error fault) :
    Ends (Action.attempt outcome : Action MemoryWorld α) turtle memory (.error (.fault fault)) turtle
      memory [] :=
  fails ▸ throw _

theorem beginAnimation {kind : AnimationKind} {animation : Animation}
    (begun : turtle.animation.begin kind = .ok animation) :
    Ends (Action.beginAnimation kind : Action MemoryWorld Unit) turtle memory (.ok ())
      { turtle with animation } memory [] :=
  bind read (bind (attempt begun) (modifyTurtle _))

theorem beginAnimation_error {kind : AnimationKind} {fault : Fault}
    (refused : turtle.animation.begin kind = .error fault) :
    Ends (Action.beginAnimation kind : Action MemoryWorld Unit) turtle memory
      (.error (.fault fault)) turtle memory [] :=
  bind read (bind_error (attempt_error refused))

theorem ask {call : WorldCall} {reply : call.Reply} {after : MemoryWorld}
    (answered : ∀ movers, World.answer call movers memory = (.ok reply, after)) :
    Ends (Action.ask call) turtle memory (.ok reply) turtle after [] := by
  rintro scene rfl rfl
  refine ⟨scene.effects ++ [.world call
    (if call.fulfilled reply then .fulfilled else .refused) scene.movers], ?_, by simp⟩
  simp only [outcome, Action.ask, answered]

theorem isLoaded (world : WorldId) (pos : BlockPos) : Ends (Action.isLoaded world pos) turtle memory
    (.ok (memory.isLoaded world pos)) turtle memory [] :=
  ask fun _ => rfl

theorem isInBounds (world : WorldId) (pos : BlockPos) :
    Ends (Action.isInBounds world pos) turtle memory (.ok (memory.isInBounds world pos)) turtle memory
      [] :=
  ask fun _ => rfl

theorem block (world : WorldId) (pos : BlockPos) : Ends (Action.block world pos) turtle memory
    (.ok (memory.block world pos)) turtle memory [] :=
  ask fun _ => rfl

theorem isProtected (world : WorldId) (pos : BlockPos) :
    Ends (Action.isProtected world pos) turtle memory (.ok (memory.isProtected world pos)) turtle
      memory [] :=
  bind read (ask fun _ => rfl)

theorem setBlock (world : WorldId) (pos : BlockPos) (block : Block) :
    Ends (Action.setBlock world pos block) turtle memory (.ok (memory.setBlock world pos block).1)
      turtle (memory.setBlock world pos block).2 [] :=
  ask fun _ => rfl

theorem relocate (world : WorldId) (pos : BlockPos) :
    Ends (Action.relocate world pos) turtle memory (relocation turtle memory world pos).1
      (relocation turtle memory world pos).2.1 (relocation turtle memory world pos).2.2 [] := by
  rintro scene rfl rfl
  obtain ⟨effects, ran⟩ := outcome_relocate scene world pos
  refine ⟨effects, ran, ?_⟩
  have displaced := Scene.Displaced.relocate pos scene (.refl world scene)
  rw [ran] at displaced
  exact displaced.notices.trans (List.append_nil _).symm

theorem setUpgrade (side : Side) (upgrade : Option Upgrade) (attached : Bool) :
    Ends (Action.setUpgrade side upgrade attached : Action MemoryWorld Bool) turtle memory
      (.ok (turtle.setUpgrade side upgrade attached).1) (turtle.setUpgrade side upgrade attached).2.1
      memory (turtle.setUpgrade side upgrade attached).2.2 := by
  rintro scene rfl rfl
  refine ⟨_, rfl, ?_⟩
  rw [noticesOf_append]
  exact congrArg _ (noticesOf_equipment _)

end Ends

/-- The ending of the action, run for a turtle in a world, is one of those that are meant. -/
def Ensures (action : Action MemoryWorld α) (turtle : Turtle) (memory : MemoryWorld)
    (meant : Except Stop α → Turtle → MemoryWorld → List EquipmentNotice → Prop) : Prop :=
  ∃ result left after notices, action.Ends turtle memory result left after notices ∧
    meant result left after notices

namespace Ensures

variable {turtle : Turtle} {memory : MemoryWorld}
  {meant : Except Stop α → Turtle → MemoryWorld → List EquipmentNotice → Prop}

theorem pure {value : α} (holds : meant (.ok value) turtle memory []) :
    Ensures (Pure.pure value) turtle memory meant :=
  ⟨_, _, _, _, .pure value, holds⟩

theorem reject {message : String} (holds : meant (.error (.rejected message)) turtle memory []) :
    Ensures (Action.reject message) turtle memory meant :=
  ⟨_, _, _, _, .throw _, holds⟩

theorem reject_bind {message : String} {next : β → Action MemoryWorld α}
    (holds : meant (.error (.rejected message)) turtle memory []) :
    Ensures (Action.reject message >>= next) turtle memory meant :=
  ⟨_, _, _, _, .bind_error (.throw _), holds⟩

theorem bind_told {action : Action MemoryWorld β} {next : β → Action MemoryWorld α} {value : β}
    {between : Turtle} {during : MemoryWorld} {notices : List EquipmentNotice}
    (first : Ends action turtle memory (.ok value) between during notices)
    (second : Ensures (next value) between during fun result left after later =>
      meant result left after (notices ++ later)) :
    Ensures (action >>= next) turtle memory meant := by
  obtain ⟨result, left, after, later, ended, holds⟩ := second
  exact ⟨result, left, after, notices ++ later, first.bind ended, holds⟩

theorem bind {action : Action MemoryWorld β} {next : β → Action MemoryWorld α} {value : β}
    {between : Turtle} {during : MemoryWorld}
    (first : Ends action turtle memory (.ok value) between during [])
    (second : Ensures (next value) between during meant) :
    Ensures (action >>= next) turtle memory meant :=
  bind_told first second

theorem bind_error {action : Action MemoryWorld β} {next : β → Action MemoryWorld α} {stop : Stop}
    {left : Turtle} {after : MemoryWorld} {notices : List EquipmentNotice}
    (first : Ends action turtle memory (.error stop) left after notices)
    (holds : meant (.error stop) left after notices) :
    Ensures (action >>= next) turtle memory meant :=
  ⟨_, _, _, _, first.bind_error, holds⟩

theorem ite {condition : Prop} [Decidable condition] {action other : Action MemoryWorld α}
    (ensures : condition → Ensures action turtle memory meant)
    (otherwise : ¬ condition → Ensures other turtle memory meant) :
    Ensures (if condition then action else other) turtle memory meant := by
  split
  · exact ensures ‹_›
  · exact otherwise ‹_›

end Ensures

end Action

/-! ### What the commands come to -/

/-- The result of a command whose last step is to begin an animation, and the turtle that it leaves. -/
def Turtle.beginning (turtle : Turtle) (kind : AnimationKind) : Except Stop (List Json) × Turtle :=
  match turtle.animation.begin kind with
  | .ok animation => (.ok [], { turtle with animation })
  | .error fault => (.error (.fault fault), turtle)

@[simp] theorem Turtle.inventory_beginning (turtle : Turtle) (kind : AnimationKind) :
    (turtle.beginning kind).2.inventory = turtle.inventory := by
  unfold beginning
  split <;> rfl

@[simp] theorem Turtle.entity_beginning (turtle : Turtle) (kind : AnimationKind) :
    (turtle.beginning kind).2.entity = turtle.entity := by
  unfold beginning
  split <;> rfl

@[simp] theorem Turtle.equipment_beginning (turtle : Turtle) (kind : AnimationKind) :
    (turtle.beginning kind).2.equipment = turtle.equipment := by
  unfold beginning
  split <;> rfl

/-- The last step of a command that is animated, in any world. -/
theorem Action.outcome_beginAnimation {W : Type} {scene : Scene W} (kind : AnimationKind) :
    (do Action.beginAnimation kind; return [] : Action W (List Json)).outcome scene =
      ((scene.turtle.beginning kind).1, { scene with turtle := (scene.turtle.beginning kind).2 }) := by
  have opened : (Action.beginAnimation kind).outcome scene =
      (Action.attempt (scene.turtle.animation.begin kind) >>= fun animation =>
        Action.modifyTurtle ({ · with animation })).outcome scene := rfl
  rw [Turtle.beginning]
  rcases begun : scene.turtle.animation.begin kind with fault | animation
  · rw [begun] at opened
    exact outcome_bind_error opened
  · rw [begun] at opened
    exact outcome_bind_ok opened

/-- Why a step is refused before the turtle is to be relocated: the first check that fails. -/
def Turtle.obstacle? (turtle : Turtle) (memory : MemoryWorld) (direction : MoveDirection) :
    Option String :=
  let target := direction.target turtle.facing turtle.pos
  if !memory.isInBounds turtle.world target then some (Action.beyondBounds direction)
  else if !memory.isLoaded turtle.world target then some "Cannot leave loaded world"
  else if !(memory.block turtle.world target).isPassable then some "Movement obstructed"
  else if memory.isProtected turtle.world target then some "Cannot enter protected area"
  else if !turtle.fuel.has Action.moveCost then some "Out of fuel"
  else none

def MemoryWorld.isPlaceable (memory : MemoryWorld) (world : WorldId) (pos : BlockPos) : Bool :=
  memory.isLoaded world pos && memory.isInBounds world pos &&
    (memory.block world pos).isPassable && !memory.isProtected world pos

/-- The upgrade that the selected slot offers for a side, and the inventory without its item. -/
inductive Turtle.Offers (turtle : Turtle) (catalog : Catalog) : Option Upgrade → Inventory → Prop where
  | nothing (empty : turtle.inventory.get? turtle.selectedSlot = none) :
      Offers turtle catalog none turtle.inventory
  | item {stack : ItemStack} {upgrade : Upgrade}
      (held : turtle.inventory.get? turtle.selectedSlot = some stack)
      (known : catalog.get? stack.id = some upgrade) :
      Offers turtle catalog (some upgrade) (turtle.inventory.take turtle.selectedSlot 1).2

theorem Turtle.Offers.size {turtle : Turtle} {catalog : Catalog} {incoming : Option Upgrade}
    {spared : Inventory} (offers : turtle.Offers catalog incoming spared) :
    spared.size = turtle.inventory.size := by
  cases offers with
  | nothing empty => rfl
  | item held known => exact Inventory.size_take ..

namespace TurtleCommand

/-- The command makes the turtle take a step. -/
def isStep : TurtleCommand → Bool
  | move _ => true
  | _ => false

/-- The ways in which a command can end. -/
inductive Ending (context : Context) (turtle : Turtle) (memory : MemoryWorld) :
    TurtleCommand → Except Stop (List Json) → Turtle → MemoryWorld → List EquipmentNotice → Prop where
  /-- A check of a step fails. -/
  | obstructed {direction : MoveDirection} {message : String}
      (first : turtle.obstacle? memory direction = some message) :
      Ending context turtle memory (.move direction) (.error (.rejected message)) turtle memory []
  /-- The step fails as the entity is to be replaced. -/
  | unmoved {direction : MoveDirection} {left : Turtle} {after : MemoryWorld}
      (clear : turtle.obstacle? memory direction = none)
      (refused : Action.relocation turtle memory turtle.world
        (direction.target turtle.facing turtle.pos) = (.ok false, left, after)) :
      Ending context turtle memory (.move direction)
        (.error (.rejected "Cannot leave loaded world")) left after []
  | broken {direction : MoveDirection} {stop : Stop} {left : Turtle} {after : MemoryWorld}
      (clear : turtle.obstacle? memory direction = none)
      (stopped : Action.relocation turtle memory turtle.world
        (direction.target turtle.facing turtle.pos) = (.error stop, left, after)) :
      Ending context turtle memory (.move direction) (.error stop) left after []
  | moved {direction : MoveDirection} {left : Turtle} {after : MemoryWorld}
      (clear : turtle.obstacle? memory direction = none)
      (relocated : Action.relocation turtle memory turtle.world
        (direction.target turtle.facing turtle.pos) = (.ok true, left, after)) :
      Ending context turtle memory (.move direction)
        (Turtle.beginning { left with fuel := (left.fuel.consume Action.moveCost).2 }
          direction.animation).1
        (Turtle.beginning { left with fuel := (left.fuel.consume Action.moveCost).2 }
          direction.animation).2 after []
  | turned (direction : TurnDirection) :
      Ending context turtle memory (.turn direction)
        (Turtle.beginning { turtle with facing := direction.turn turtle.facing } direction.animation).1
        (Turtle.beginning { turtle with facing := direction.turn turtle.facing } direction.animation).2
        memory []
  /-- Any other command is refused before it has done anything. It is rejected, unless there are more
  slots than can be counted on from the selected one. -/
  | refused {command : TurtleCommand} (other : command.isStep = false) (stop : Stop)
      (cause : (∃ message, stop = .rejected message) ∨
        word64 < turtle.selectedSlot + turtle.inventory.size) :
      Ending context turtle memory command (.error stop) turtle memory []
  | dug {direction : ReachDirection} {wanted : Option Side} {side : Side} {inventory : Inventory}
      {after : MemoryWorld} (tool : turtle.diggingSide? wanted = some side)
      (solid : (memory.block turtle.world (direction.target turtle)).kind = .solid)
      (free : memory.isProtected turtle.world (direction.target turtle) = false)
      (stowed : turtle.inventory.insertFrom turtle.selectedSlot
        (.single (memory.block turtle.world (direction.target turtle)).id) = (.ok none, inventory))
      (written : memory.setBlock turtle.world (direction.target turtle) .air = (.ok (), after)) :
      Ending context turtle memory (.dig direction wanted)
        (Turtle.beginning { turtle with inventory } side.swing).1
        (Turtle.beginning { turtle with inventory } side.swing).2 after []
  | placed {direction : ReachDirection} {stack : ItemStack} {after : MemoryWorld}
      (held : turtle.inventory.get? turtle.selectedSlot = some stack)
      (placeable : memory.isPlaceable turtle.world (direction.target turtle) = true)
      (written : memory.setBlock turtle.world (direction.target turtle) (.solid stack.id) =
        (.ok (), after)) :
      Ending context turtle memory (.place direction)
        (Turtle.beginning
          { turtle with inventory := (turtle.inventory.take turtle.selectedSlot 1).2 } .wait).1
        (Turtle.beginning
          { turtle with inventory := (turtle.inventory.take turtle.selectedSlot 1).2 } .wait).2 after []
  | detected (direction : ReachDirection) :
      Ending context turtle memory (.detect direction)
        (.ok [.bool (!(memory.block turtle.world (direction.target turtle)).isPassable)]) turtle memory
        []
  | inspected {direction : ReachDirection} {block : Block}
      (seen : memory.block turtle.world (direction.target turtle) = block)
      (some : block.isAir = false) :
      Ending context turtle memory (.inspect direction)
        (.ok [.obj [("name", .str block.id), ("kind", .str block.kind.name)]]) turtle memory []
  | selected {slot : Nat} (small : slot < slotCount) :
      Ending context turtle memory (.select slot) (.ok []) { turtle with selectedSlot := slot } memory
        []
  /-- Fuel is not required, or no item is to be burnt. -/
  | unburnt {limit : Nat} (idle : turtle.fuel.required = true → limit = 0) :
      Ending context turtle memory (.refuel limit) (.ok []) turtle memory []
  /-- The fuel of the items does not fit into the word of the level. -/
  | overflown {limit gain : Nat} {burnt : ItemStack} {inventory : Inventory} {fault : Fault}
      (taken : turtle.inventory.take turtle.selectedSlot limit = (some burnt, inventory))
      (overflow : (turtle.fuel.add gain).1 = .error fault) :
      Ending context turtle memory (.refuel limit) (.error (.fault fault))
        { turtle with inventory, fuel := (turtle.fuel.add gain).2 } memory []
  | burnt {limit value : Nat} {stack burnt : ItemStack} {inventory : Inventory}
      (required : turtle.fuel.required = true) (more : limit ≠ 0)
      (held : turtle.inventory.get? turtle.selectedSlot = some stack)
      (burns : context.settings.fuelValue? stack.id = some value)
      (taken : turtle.inventory.take turtle.selectedSlot limit = (some burnt, inventory)) :
      Ending context turtle memory (.refuel limit)
        (Turtle.beginning { turtle with
          inventory, fuel := (turtle.fuel.add (min (value * burnt.count) (word32 - 1))).2 } .wait).1
        (Turtle.beginning { turtle with
          inventory, fuel := (turtle.fuel.add (min (value * burnt.count) (word32 - 1))).2 } .wait).2
        memory []
  /-- There is nothing to be moved, or nowhere to move it to. -/
  | untransferred {slot count : Nat} (small : slot < slotCount)
      (idle : slot = turtle.selectedSlot ∨ count = 0 ∨
        ∃ inventory, turtle.inventory.take turtle.selectedSlot count = (none, inventory)) :
      Ending context turtle memory (.transferTo slot count) (.ok []) turtle memory []
  /-- No item fits into the other slot, and all of them go back. -/
  | returned {slot count : Nat} {taken : ItemStack} {spared inventory : Inventory}
      (apart : slot ≠ turtle.selectedSlot)
      (took : turtle.inventory.take turtle.selectedSlot count = (some taken, spared))
      (moved : spared.Moves slot turtle.selectedSlot taken 0 inventory) :
      Ending context turtle memory (.transferTo slot count) (.error (.rejected noSpace))
        { turtle with inventory } memory []
  | transferred {slot count moved : Nat} {taken : ItemStack} {spared inventory : Inventory}
      (small : slot < slotCount) (apart : slot ≠ turtle.selectedSlot)
      (took : turtle.inventory.take turtle.selectedSlot count = (some taken, spared))
      (arrived : moved ≠ 0) (moves : spared.Moves slot turtle.selectedSlot taken moved inventory) :
      Ending context turtle memory (.transferTo slot count)
        (Turtle.beginning { turtle with inventory } .shortWait).1
        (Turtle.beginning { turtle with inventory } .shortWait).2 memory []
  /-- The side is free and the slot is empty. -/
  | unequipped {side : Side} (empty : turtle.inventory.get? turtle.selectedSlot = none)
      (free : turtle.equipment.get? side = none) :
      Ending context turtle memory (.equip side) (.ok []) turtle memory []
  | equipped {side : Side} {incoming : Option Upgrade} {spared inventory : Inventory}
      (offered : turtle.Offers context.catalog incoming spared)
      (stowed : spared.Stows turtle.selectedSlot (turtle.equipment.get? side) inventory) :
      Ending context turtle memory (.equip side)
        (Turtle.beginning
          (Turtle.setUpgrade { turtle with inventory } side incoming turtle.attached).2.1 .wait).1
        (Turtle.beginning
          (Turtle.setUpgrade { turtle with inventory } side incoming turtle.attached).2.1 .wait).2 memory
        (Turtle.setUpgrade { turtle with inventory } side incoming turtle.attached).2.2
  | told :
      Ending context turtle memory .getFuelLevel
        (.ok [if turtle.fuel.required then .int turtle.fuel.level else .str "unlimited"]) turtle memory
        []

end TurtleCommand

/-! ### Running the commands -/

namespace Action.Ensures

variable {context : Context} {turtle : Turtle} {memory : MemoryWorld}
  {meant : Except Stop (List Json) → Turtle → MemoryWorld → List EquipmentNotice → Prop}

theorem rejected {command : TurtleCommand} (other : command.isStep = false) (message : String) :
    command.Ending context turtle memory (.error (.rejected message)) turtle memory [] :=
  .refused other _ (.inl ⟨message, rfl⟩)

theorem begin {kind : AnimationKind}
    (holds : meant (turtle.beginning kind).1 (turtle.beginning kind).2 memory []) :
    Ensures (do Action.beginAnimation kind; return []) turtle memory meant := by
  unfold Turtle.beginning at holds
  rcases begun : turtle.animation.begin kind with fault | animation
  · rw [begun] at holds
    exact bind_error (.beginAnimation_error begun) holds
  · rw [begun] at holds
    exact bind (.beginAnimation begun) (pure holds)

theorem move (direction : MoveDirection) : Ensures (Action.move direction) turtle memory
    (TurtleCommand.Ending context turtle memory (.move direction)) := by
  refine bind .read (bind (.isInBounds _ _) (ite (fun bounded => ?_) fun outside =>
    reject_bind (.obstructed (by simp [Turtle.obstacle?, outside]))))
  refine bind (.isLoaded _ _) (ite (fun loaded => ?_) fun unloaded =>
    reject_bind (.obstructed (by simp [Turtle.obstacle?, bounded, unloaded])))
  refine bind (.block _ _) (ite (fun passable => ?_) fun solid =>
    reject_bind (.obstructed (by simp [Turtle.obstacle?, bounded, loaded, solid])))
  refine bind (.isProtected _ _) (ite (fun guarded =>
    reject_bind (.obstructed (by simp [Turtle.obstacle?, bounded, loaded, passable, guarded])))
    fun free => ?_)
  refine ite (fun fuelled => ?_) fun empty =>
    reject_bind (.obstructed (by simp [Turtle.obstacle?, bounded, loaded, passable, free, empty]))
  have clear : turtle.obstacle? memory direction = none := by
    simp [Turtle.obstacle?, bounded, loaded, passable, free, fuelled]
  have relocated := @Ends.relocate turtle memory turtle.world
    (direction.target turtle.facing turtle.pos)
  rcases ended : relocation turtle memory turtle.world (direction.target turtle.facing turtle.pos)
    with ⟨stop | there, left, after⟩
  · rw [ended] at relocated
    exact bind_error relocated (.broken clear ended)
  · rw [ended] at relocated
    refine bind relocated (ite (fun arrived => ?_) fun failed => ?_)
    · subst arrived
      exact bind (.modifyTurtle _) (begin (.moved clear ended))
    · cases there with
      | true => exact (failed rfl).elim
      | false => exact reject_bind (.unmoved clear ended)

theorem turn (direction : TurnDirection) : Ensures (Action.turn direction) turtle memory
    (TurtleCommand.Ending context turtle memory (.turn direction)) :=
  bind (.modifyTurtle _) (begin (.turned direction))

/-- Putting a stack away succeeds as a whole, or else stops the command. -/
theorem stow_bind {inventory : Inventory} {start : Nat} {stack : ItemStack}
    {next : Inventory → Action MemoryWorld (List Json)}
    (stopped : ∀ stop, ((∃ message, stop = .rejected message) ∨ word64 < start + inventory.size) →
      meant (.error stop) turtle memory [])
    (stowed : ∀ after, inventory.insertFrom start stack = (.ok none, after) →
      Ensures (next after) turtle memory meant) :
    Ensures (Action.stow inventory start stack >>= next) turtle memory meant := by
  unfold Action.stow
  rcases ended : inventory.insertFrom start stack with ⟨fault | _ | rest, after⟩
  · have beyond : word64 < start + inventory.size := by
      refine Nat.lt_of_not_le fun countable => ?_
      obtain ⟨rest, answered⟩ := inventory.insertFrom_ok countable stack
      rw [ended] at answered
      cases answered
    exact bind_error (.bind_error (.attempt_error rfl)) (stopped _ (.inr beyond))
  · exact bind (.bind (.attempt rfl) (.pure after)) (stowed after ended)
  · exact bind_error (.bind (.attempt rfl) (.bind_error (.throw _))) (stopped _ (.inl ⟨_, rfl⟩))

theorem writeBlock_bind {world : WorldId} {pos : BlockPos} {block : Block}
    {next : Unit → Action MemoryWorld (List Json)}
    (stopped : ∀ message, meant (.error (.rejected message)) turtle memory [])
    (written : ∀ after, memory.setBlock world pos block = (.ok (), after) →
      Ensures (next ()) turtle after meant) :
    Ensures (Action.writeBlock world pos block >>= next) turtle memory meant := by
  have answered := @Ends.setBlock turtle memory world pos block
  unfold Action.writeBlock
  rcases ended : memory.setBlock world pos block with ⟨error | ⟨⟩, after⟩
  · have kept : after = memory := by
      unfold MemoryWorld.setBlock at ended
      split at ended
      · cases ended
        rfl
      · cases ended
    rw [ended] at answered
    exact bind_error (answered.bind (.throw _)) (kept ▸ stopped _)
  · rw [ended] at answered
    exact bind (answered.bind (.pure ())) (written after ended)

theorem dig (direction : ReachDirection) (wanted : Option Side) :
    Ensures (Action.dig direction wanted) turtle memory
      (TurtleCommand.Ending context turtle memory (.dig direction wanted)) := by
  refine bind .read ?_
  dsimp only
  rcases tool : turtle.diggingSide? wanted with _ | side
  · exact reject (rejected rfl _)
  refine bind (.block _ _) (ite (fun _ => reject_bind (rejected rfl _)) fun dense => ?_)
  refine ite (fun _ => reject_bind (rejected rfl _)) fun breakable => ?_
  refine bind (.isProtected _ _) (ite (fun _ => reject_bind (rejected rfl _)) fun free => ?_)
  have solid : (memory.block turtle.world (direction.target turtle)).kind = .solid := by
    simp only [Block.isPassable, Bool.or_eq_true, decide_eq_true_eq, not_or] at dense breakable
    cases kind : (memory.block turtle.world (direction.target turtle)).kind <;> simp_all
  refine stow_bind (.refused rfl · ·) fun inventory stowed => ?_
  refine writeBlock_bind (rejected rfl) fun after written => ?_
  exact bind (.modifyTurtle _) (begin (.dug tool solid (by simpa using free) stowed written))

theorem isPlaceable (world : WorldId) (pos : BlockPos) :
    Ends (Action.isPlaceable world pos) turtle memory (.ok (memory.isPlaceable world pos)) turtle
      memory [] := by
  suffices ensures : Ensures (Action.isPlaceable world pos) turtle memory
      fun result left after notices => result = .ok (memory.isPlaceable world pos) ∧ left = turtle ∧
        after = memory ∧ notices = [] by
    obtain ⟨_, _, _, _, ended, rfl, rfl, rfl, rfl⟩ := ensures
    exact ended
  refine bind (.isLoaded _ _) (ite (fun loaded => ?_) fun unloaded => pure ?_)
  · refine bind (.isInBounds _ _) (ite (fun bounded => ?_) fun outside => pure ?_)
    · refine bind (.block _ _) (ite (fun passable => ?_) fun solid => pure ?_)
      · refine bind (.isProtected _ _) (pure ?_)
        simp [MemoryWorld.isPlaceable, loaded, bounded, passable]
      · simp [MemoryWorld.isPlaceable, solid]
    · simp [MemoryWorld.isPlaceable, outside]
  · simp [MemoryWorld.isPlaceable, unloaded]

theorem place (direction : ReachDirection) : Ensures (Action.place direction) turtle memory
    (TurtleCommand.Ending context turtle memory (.place direction)) := by
  refine bind .read ?_
  dsimp only
  rcases held : turtle.inventory.get? turtle.selectedSlot with _ | stack
  · exact reject (rejected rfl _)
  refine bind (isPlaceable _ _) (ite (fun placeable => ?_) fun _ => reject_bind (rejected rfl _))
  refine writeBlock_bind (rejected rfl) fun after written => ?_
  exact bind (.modifyTurtle _) (begin (.placed held placeable written))

theorem detect (direction : ReachDirection) : Ensures (Action.detect direction) turtle memory
    (TurtleCommand.Ending context turtle memory (.detect direction)) :=
  bind .read (bind (.block _ _) (pure (.detected direction)))

theorem inspect (direction : ReachDirection) : Ensures (Action.inspect direction) turtle memory
    (TurtleCommand.Ending context turtle memory (.inspect direction)) := by
  refine bind .read (bind (.block _ _) (ite (fun _ => reject_bind (rejected rfl _)) fun some => ?_))
  exact pure (.inspected rfl (by simpa using some))

theorem fuelLevel : Ensures Action.fuelLevel turtle memory
    (TurtleCommand.Ending context turtle memory .getFuelLevel) :=
  bind .read (pure .told)

theorem select (slot : Nat) : Ensures (Action.select slot) turtle memory
    (TurtleCommand.Ending context turtle memory (.select slot)) := by
  refine bind .read ?_
  by_cases small : slot < slotCount
  · have chosen : turtle.select slot = (true, { turtle with selectedSlot := slot }) := if_pos small
    rw [chosen]
    exact bind (.modifyTurtle _) (pure (.selected small))
  · have refused : turtle.select slot = (false, turtle) := if_neg small
    rw [refused]
    exact reject_bind (rejected rfl _)

theorem refuel (limit : Nat) : Ensures (Action.refuel context.settings limit) turtle memory
    (TurtleCommand.Ending context turtle memory (.refuel limit)) := by
  refine bind .read (ite (fun required => ?_) fun free => pure (.unburnt fun required =>
    (free required).elim))
  dsimp only
  rcases held : turtle.inventory.get? turtle.selectedSlot with _ | stack
  · exact reject (rejected rfl _)
  dsimp only
  rcases burns : context.settings.fuelValue? stack.id with _ | value
  · exact reject (rejected rfl _)
  refine ite (fun none => pure (.unburnt fun _ => none)) fun more => ?_
  rcases taken : turtle.inventory.take turtle.selectedSlot limit with ⟨_ | burnt, inventory⟩
  · exact reject (rejected rfl _)
  refine bind (.modifyTurtle _) (bind (.modifyTurtle _) ?_)
  rcases gained : (turtle.fuel.add (min (value * burnt.count) (word32 - 1))).1 with fault | gain
  · exact bind_error (.attempt_error rfl) (.overflown taken gained)
  · exact bind (.attempt rfl) (begin (.burnt required more held burns taken))

theorem transferTo (slot count : Nat) : Ensures (Action.transferTo slot count) turtle memory
    (TurtleCommand.Ending context turtle memory (.transferTo slot count)) := by
  refine ite (fun small => ?_) fun _ => reject_bind (rejected rfl _)
  refine bind .read (ite (fun idle => ?_) fun busy => ?_)
  · exact pure (.untransferred small (idle.imp_right .inl))
  obtain ⟨apart, more⟩ := not_or.mp busy
  dsimp only
  rcases took : turtle.inventory.take turtle.selectedSlot count with ⟨_ | taken, spared⟩
  · exact pure (.untransferred small (.inr (.inr ⟨_, took⟩)))
  obtain ⟨_, _, some, _⟩ := Inventory.take_eq_some took
  have counted {moved : Nat} {inventory : Inventory}
      (moves : spared.Moves slot turtle.selectedSlot taken moved inventory) :
      Ensures (do
        if moved = 0 then Action.reject noSpace
        Action.beginAnimation .shortWait
        return []) { turtle with inventory } memory
        (TurtleCommand.Ending context turtle memory (.transferTo slot count)) := by
    refine ite (fun none => ?_) fun arrived => begin (.transferred small apart took arrived moves)
    subst none
    exact reject_bind (.returned apart took moves)
  dsimp only
  rcases put : spared.insertInto slot taken with ⟨_ | rest, filled⟩
  · exact bind (.modifyTurtle _) (bind (.pure _) (counted (.all put)))
  · have few : rest.count ≤ taken.count := (Inventory.insertInto_rest some put).2.2
    have moved := checkedSub_of_le few
    refine bind (.modifyTurtle _) (bind (.attempt moved) (bind (.modifyTurtle _) ?_))
    exact bind (.pure _) (counted (.some put))

/-- The rest of an exchange, once it is known which upgrade is offered. -/
theorem exchange (side : Side) {incoming : Option Upgrade} {spared : Inventory}
    (offered : turtle.Offers context.catalog incoming spared) :
    Ensures (do
      let inventory ← match turtle.equipment.get? side with
        | some upgrade => Action.stow spared turtle.selectedSlot (.single upgrade.id)
        | none => Pure.pure spared
      Action.setInventory inventory
      let _ ← Action.setUpgrade side incoming turtle.attached
      Action.beginAnimation .wait
      return []) turtle memory (TurtleCommand.Ending context turtle memory (.equip side)) := by
  have stored {inventory : Inventory}
      (stowed : spared.Stows turtle.selectedSlot (turtle.equipment.get? side) inventory) :
      Ensures (do
        Action.setInventory inventory
        let _ ← Action.setUpgrade side incoming turtle.attached
        Action.beginAnimation .wait
        return []) turtle memory (TurtleCommand.Ending context turtle memory (.equip side)) := by
    refine bind (.modifyTurtle _) (bind_told (.setUpgrade side incoming turtle.attached) (begin ?_))
    rw [List.append_nil]
    exact .equipped offered stowed
  rcases outgoing : turtle.equipment.get? side with _ | upgrade
  · exact bind (.pure spared) (stored (outgoing ▸ .nothing))
  · refine stow_bind ?_ fun inventory fits => stored (outgoing ▸ .item fits)
    intro stop cause
    rw [offered.size] at cause
    exact .refused rfl stop cause

theorem equip (side : Side) : Ensures (Action.equip context.catalog side) turtle memory
    (TurtleCommand.Ending context turtle memory (.equip side)) := by
  refine bind .read ?_
  dsimp only
  rcases held : turtle.inventory.get? turtle.selectedSlot with _ | stack
  · refine bind (.pure none) (ite (fun free => ?_) fun _ =>
      exchange side (.nothing held))
    exact pure (.unequipped held (Option.isNone_iff_eq_none.mp free.2))
  · dsimp only
    rcases known : context.catalog.get? stack.id with _ | upgrade
    · exact reject_bind (rejected rfl _)
    · exact bind (.pure (some upgrade)) (ite (fun free => by cases free.1) fun _ =>
        exchange side (.item held known))

end Action.Ensures

/-- Every ending of a command in a world held in memory is listed. -/
theorem TurtleCommand.ensures (command : TurtleCommand) (context : Context) (turtle : Turtle)
    (memory : MemoryWorld) : Action.Ensures (command.execute context) turtle memory
      (command.Ending context turtle memory) := by
  cases command with
  | move direction => exact .move direction
  | turn direction => exact .turn direction
  | dig direction side => exact .dig direction side
  | place direction => exact .place direction
  | detect direction => exact .detect direction
  | inspect direction => exact .inspect direction
  | select slot => exact .select slot
  | refuel limit => exact .refuel limit
  | transferTo slot count => exact .transferTo slot count
  | equip side => exact .equip side
  | getFuelLevel => exact .fuelLevel

/-! ### Executions

The fleet adds nothing to the ending of a command but the response. -/

variable {C M W : Type}

namespace Round

/-- How the command of an entry ends when the fleet runs it for a member. -/
def ending [Command C] [World W] (round : Round C M W) (id : TurtleId) (member : Member C)
    (entry : QueueEntry C) : Except Stop (List Json) :=
  ((Command.execute entry.command round.stage.fleet.context).outcome
    { turtle := member.turtle, world := round.stage.world,
      otherMovers := round.stage.fleet.moversExcept id }).1

/-- The turtle and the world are left as the command leaves them. -/
theorem execute_ends [WorkMonitor M] (round : Round TurtleCommand M MemoryWorld) (id : TurtleId)
    (member : Member TurtleCommand) (entry : QueueEntry TurtleCommand) (nanos : Nat) :
    ∃ served notices,
      (round.execute id member entry nanos).stage.fleet.members.get? id = some served ∧
      entry.command.Ending round.stage.fleet.context member.turtle round.stage.world
        (round.ending id member entry) served.turtle
        (round.execute id member entry nanos).stage.world notices ∧
      noticesIn (round.execute id member entry nanos).stage.signals =
        noticesIn round.stage.signals ++ notices := by
  obtain ⟨result, left, after, notices, ends, ending⟩ :=
    entry.command.ensures round.stage.fleet.context member.turtle round.stage.world
  obtain ⟨effects, ran, told⟩ := ends
    { turtle := member.turtle, world := round.stage.world,
      otherMovers := round.stage.fleet.moversExcept id } rfl rfl
  have same : round.ending id member entry = result := congrArg Prod.fst ran
  have executed : round.execute id member entry nanos = _ := execute_of_ran round member ran nanos
  rw [same, executed]
  refine ⟨_, notices, Keyed.get?_insert_self .., ending, ?_⟩
  dsimp only
  rw [noticesIn_append, noticesIn_append, noticesIn_effects, told]
  split <;> simp [noticesIn, Signal.notice?]

end Round

end TurtleFleet
