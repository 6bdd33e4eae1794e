import TurtleFleet.Proofs.Standstill

/-! Breakdowns: a standard command begins its animation last of all, so that one that is rejected or
breaks off leaves the animation as it was, whatever the world answers and wherever a call breaks off. -/

namespace TurtleFleet

variable {W α β : Type}

def Scene.Animated (animation : Animation) (scene : Scene W) : Prop :=
  scene.turtle.animation = animation

namespace Action

/-- The action leaves the animation alone. -/
def Still (action : Action W α) : Prop := ∀ animation, Keeps (Scene.Animated animation) action

/-- The action leaves the animation alone if it ends in an error. -/
def FailsStill (action : Action W α) : Prop :=
  ∀ scene stop left, action.outcome scene = (.error stop, left) →
    left.turtle.animation = scene.turtle.animation

namespace Still

theorem of_eq {action : Action W α}
    (same : ∀ scene, (action.outcome scene).2.turtle.animation = scene.turtle.animation) :
    action.Still :=
  fun _ scene animated => (same scene).trans animated

theorem pure (value : α) : (Pure.pure value : Action W α).Still := of_eq fun _ => rfl

theorem reject (message : String) : (Action.reject message : Action W α).Still := of_eq fun _ => rfl

theorem turtle : (Action.turtle : Action W Turtle).Still := of_eq fun _ => rfl

theorem attempt (value : Except Fault α) : (Action.attempt value : Action W α).Still := by
  cases value <;> exact of_eq fun _ => rfl

theorem bind {action : Action W α} {next : α → Action W β} (still : action.Still)
    (later : ∀ value, (next value).Still) : (action >>= next).Still := fun animation =>
  (Steady.bind (still animation).steady fun value => (later value animation).steady).keeps

theorem ite {condition : Prop} [Decidable condition] {action other : Action W α} (still : action.Still)
    (otherwise : other.Still) : (if condition then action else other).Still := by
  split
  · exact still
  · exact otherwise

theorem modifyTurtle {f : Turtle → Turtle} (same : ∀ turtle, (f turtle).animation = turtle.animation) :
    (Action.modifyTurtle f : Action W Unit).Still := of_eq fun scene => same scene.turtle

theorem setUpgrade (side : Side) (upgrade : Option Upgrade) (attached : Bool) :
    (Action.setUpgrade side upgrade attached : Action W Bool).Still := of_eq fun _ => rfl

theorem stow (inventory : Inventory) (start : Nat) (stack : ItemStack) :
    (Action.stow inventory start stack : Action W Inventory).Still :=
  bind (attempt _) fun _ => ite (bind (reject _) fun _ => pure _) (pure _)

variable [World W]

theorem ask (call : WorldCall) : (Action.ask call : Action W call.Reply).Still := by
  refine of_eq fun scene => ?_
  rcases answered : World.answer call scene.movers scene.world with ⟨fault | reply, world⟩ <;>
    simp only [outcome, Action.ask, answered]

theorem isProtected (world : WorldId) (pos : BlockPos) :
    (Action.isProtected world pos : Action W Bool).Still := bind turtle fun _ => ask _

theorem writeBlock (world : WorldId) (pos : BlockPos) (block : Block) :
    (Action.writeBlock world pos block : Action W Unit).Still := by
  refine bind (ask _) fun reply => ?_
  cases reply with
  | ok _ => exact pure _
  | error cause => exact reject _

theorem isPlaceable (world : WorldId) (pos : BlockPos) :
    (Action.isPlaceable world pos : Action W Bool).Still := by
  refine bind (ask _) fun loaded => ite ?_ (pure _)
  refine bind (ask _) fun bounded => ite ?_ (pure _)
  exact bind (ask _) fun block => ite (bind (isProtected _ _) fun _ => pure _) (pure _)

theorem relocate (world : WorldId) (pos : BlockPos) :
    (Action.relocate world pos : Action W Bool).Still := by
  refine of_eq fun scene => ?_
  have meets := meets_relocate world pos scene
  rw [Meets] at meets
  generalize (Action.relocate world pos).outcome scene = ended at meets ⊢
  obtain ⟨result, left⟩ := ended
  cases meets with
  | failed failed still => rw [still]
  | arrived there same => rw [same]
  | stranded there same botches => rw [same]

end Still

namespace FailsStill

theorem of_still {action : Action W α} (still : action.Still) : action.FailsStill := by
  intro scene stop left ended
  have same := still scene.turtle.animation scene rfl
  rwa [ended] at same

/-- Only the last part of an action may begin an animation. -/
theorem bind {action : Action W α} {next : α → Action W β} (still : action.Still)
    (later : ∀ value, (next value).FailsStill) : (action >>= next).FailsStill := by
  intro scene stop left ended
  have same := still scene.turtle.animation scene rfl
  rcases ran : action.outcome scene with ⟨_ | value, between⟩
  · rw [outcome_bind_error ran] at ended
    rw [ran] at same
    rw [← (Prod.mk.inj ended).2]
    exact same
  · rw [outcome_bind_ok ran] at ended
    rw [ran] at same
    exact (later value between stop left ended).trans same

theorem ite {condition : Prop} [Decidable condition] {action other : Action W α}
    (fails : action.FailsStill) (otherwise : other.FailsStill) :
    (if condition then action else other).FailsStill := by
  split
  · exact fails
  · exact otherwise

theorem rejected (message : String) (next : α → Action W β) :
    (reject message >>= next).FailsStill := by
  rintro scene stop left ⟨⟩
  rfl

/-- An animation that begins is the end of the action, and one that does not is left alone. -/
theorem begin (kind : AnimationKind) :
    (do
      beginAnimation kind
      return [] : Action W (List Json)).FailsStill := by
  intro scene stop left ended
  rw [outcome_beginAnimation, Turtle.beginning] at ended
  cases begun : scene.turtle.animation.begin kind with
  | ok animation =>
    rw [begun] at ended
    cases ended
  | error fault =>
    rw [begun] at ended
    rw [← (Prod.mk.inj ended).2]

variable [World W]

theorem move (direction : MoveDirection) :
    (Action.move direction : Action W (List Json)).FailsStill := by
  refine bind .turtle fun turtle => bind (.ask _) fun bounded => ite ?_ (rejected _ _)
  refine bind (.ask _) fun loaded => ite ?_ (rejected _ _)
  refine bind (.ask _) fun block => ite ?_ (rejected _ _)
  refine bind (.isProtected _ _) fun guarded => ite (rejected _ _) (ite ?_ (rejected _ _))
  refine bind (.relocate _ _) fun there => ite ?_ (rejected _ _)
  exact bind (.modifyTurtle fun _ => rfl) fun _ => begin _

omit [World W] in
theorem turn (direction : TurnDirection) :
    (Action.turn direction : Action W (List Json)).FailsStill :=
  bind (.modifyTurtle fun _ => rfl) fun _ => begin _

theorem dig (direction : ReachDirection) (side : Option Side) :
    (Action.dig direction side : Action W (List Json)).FailsStill := by
  refine bind .turtle fun turtle => ?_
  dsimp only
  cases turtle.diggingSide? side with
  | none => exact of_still (.reject _)
  | some side =>
    refine bind (.ask _) fun block => ite (rejected _ _) (ite (rejected _ _) ?_)
    refine bind (.isProtected _ _) fun guarded => ite (rejected _ _) ?_
    refine bind (.stow _ _ _) fun inventory => bind (.writeBlock _ _ _) fun _ => ?_
    exact bind (.modifyTurtle fun _ => rfl) fun _ => begin _

theorem place (direction : ReachDirection) :
    (Action.place direction : Action W (List Json)).FailsStill := by
  refine bind .turtle fun turtle => ?_
  dsimp only
  cases turtle.inventory.get? turtle.selectedSlot with
  | none => exact of_still (.reject _)
  | some stack =>
    refine bind (.isPlaceable _ _) fun free => ite ?_ (rejected _ _)
    refine bind (.writeBlock _ _ _) fun _ => ?_
    exact bind (.modifyTurtle fun _ => rfl) fun _ => begin _

omit [World W] in
theorem refuel (settings : Settings) (limit : Nat) :
    (Action.refuel settings limit : Action W (List Json)).FailsStill := by
  refine bind .turtle fun turtle => ite ?_ (of_still (.pure _))
  dsimp only
  cases turtle.inventory.get? turtle.selectedSlot with
  | none => exact of_still (.reject _)
  | some stack =>
    dsimp only
    cases settings.fuelValue? stack.id with
    | none => exact of_still (.reject _)
    | some value =>
      refine ite (of_still (.pure _)) ?_
      rcases turtle.inventory.take turtle.selectedSlot limit with ⟨_ | burnt, inventory⟩
      · exact of_still (.reject _)
      · refine bind (.modifyTurtle fun _ => rfl) fun _ => bind (.modifyTurtle fun _ => rfl) fun _ => ?_
        exact bind (.attempt _) fun _ => begin _

omit [World W] in
theorem transferTo (slot count : Nat) :
    (Action.transferTo slot count : Action W (List Json)).FailsStill := by
  refine ite (bind .turtle fun turtle => ite (of_still (.pure _)) ?_) (rejected _ _)
  have counted (moved : Nat) : (do
      if moved = 0 then Action.reject noSpace
      beginAnimation .shortWait
      return [] : Action W (List Json)).FailsStill := ite (rejected _ _) (begin _)
  rcases turtle.inventory.take turtle.selectedSlot count with ⟨_ | taken, inventory⟩
  · exact of_still (.pure _)
  dsimp only
  rcases inventory.insertInto slot taken with ⟨_ | rest, inventory⟩
  · exact bind (.modifyTurtle fun _ => rfl) fun _ => bind (.pure _) counted
  · refine bind (.modifyTurtle fun _ => rfl) fun _ => bind (.attempt _) fun moved => ?_
    exact bind (.modifyTurtle fun _ => rfl) fun _ => bind (.pure _) counted

omit [World W] in
theorem equip (catalog : Catalog) (side : Side) :
    (Action.equip catalog side : Action W (List Json)).FailsStill := by
  refine bind .turtle fun turtle => ?_
  have stored (incoming : Option Upgrade) (inventory : Inventory) : (do
      setInventory inventory
      let _ ← setUpgrade side incoming turtle.attached
      beginAnimation .wait
      return [] : Action W (List Json)).FailsStill :=
    bind (.modifyTurtle fun _ => rfl) fun _ => bind (.setUpgrade _ _ _) fun _ => begin _
  dsimp only
  cases turtle.inventory.get? turtle.selectedSlot with
  | none =>
    refine bind (.pure _) fun incoming => ite (of_still (.pure _)) ?_
    split
    · exact bind (.stow _ _ _) (stored incoming)
    · exact bind (.pure _) (stored incoming)
  | some stack =>
    dsimp only
    cases Keyed.get? catalog stack.id with
    | none => exact rejected _ _
    | some upgrade =>
      refine bind (.pure _) fun incoming => ite (of_still (.pure _)) ?_
      split
      · exact bind (.stow _ _ _) (stored incoming)
      · exact bind (.pure _) (stored incoming)

end FailsStill

end Action

/-- A standard command that ends in an error, in any world, has left the animation alone. -/
theorem TurtleCommand.failsStill [World W] (command : TurtleCommand) (context : Context) :
    (command.execute context : Action W (List Json)).FailsStill := by
  cases command with
  | move direction => exact .move direction
  | turn direction => exact .turn direction
  | dig direction side => exact .dig direction side
  | place direction => exact .place direction
  | detect direction => exact .of_still (.bind .turtle fun _ => .bind (.ask _) fun _ => .pure _)
  | inspect direction =>
    refine .of_still (.bind .turtle fun _ => .bind (.ask _) fun _ => .ite ?_ (.pure _))
    exact .bind (.reject _) fun _ => .pure _
  | select slot =>
    refine .of_still (.of_eq fun scene => ?_)
    by_cases small : slot < slotCount <;>
    · simp only [execute, Action.outcome, Action.select, Turtle.select, small, ↓reduceIte]
      rfl
  | refuel limit => exact .refuel context.settings limit
  | transferTo slot count => exact .transferTo slot count
  | equip side => exact .equip context.catalog side
  | getFuelLevel => exact .of_still (.bind .turtle fun _ => .pure _)

end TurtleFleet
