import TurtleFleet.Command.Storage

/-! The standard commands, run side by side on two scenes that are alike. A command that is steady
ends the same way on both and leaves them alike, whichever likeness is meant; what a likeness has to
withstand for that is listed once. An invariant of a single scene is the special case of two equal
scenes. -/

namespace TurtleFleet

variable {W : Type} {α β : Type}

/-- The same turtle in an entity of another serial. -/
def Turtle.reborn (turtle : Turtle) (serial : Nat) : Turtle :=
  { turtle with entity := { turtle.entity with serial } }

namespace Action

/-- The action ends the same way on alike scenes and leaves them alike. -/
def Steady (alike : Scene W → Scene W → Prop) (action : Action W α) : Prop :=
  ∀ first second, alike first second →
    (action.outcome first).1 = (action.outcome second).1 ∧
      alike (action.outcome first).2 (action.outcome second).2

theorem outcome_bind_ok {action : Action W α} {next : α → Action W β} {scene left : Scene W}
    {value : α} (ended : action.outcome scene = (.ok value, left)) :
    (action >>= next).outcome scene = (next value).outcome left := by
  unfold outcome at ended ⊢
  cases ran : action scene with
  | ok result after =>
    rw [ran] at ended
    cases ended
    rw [bind_of_ok ran]
  | error stop after =>
    rw [ran] at ended
    cases ended

theorem outcome_bind_error {action : Action W α} {next : α → Action W β} {scene left : Scene W}
    {stop : Stop} (ended : action.outcome scene = (.error stop, left)) :
    (action >>= next).outcome scene = (.error stop, left) := by
  unfold outcome at ended ⊢
  cases ran : action scene with
  | ok result after =>
    rw [ran] at ended
    cases ended
  | error cause after =>
    rw [ran] at ended
    cases ended
    rw [bind_of_error ran]

namespace Steady

variable {alike : Scene W → Scene W → Prop}

theorem pure (value : α) : Steady alike (Pure.pure value : Action W α) :=
  fun _ _ same => ⟨rfl, same⟩

theorem reject (message : String) : Steady alike (Action.reject message : Action W α) :=
  fun _ _ same => ⟨rfl, same⟩

theorem reject_bind (message : String) (next : α → Action W β) :
    Steady alike (Action.reject message >>= next) :=
  fun _ _ same => ⟨rfl, same⟩

theorem throw (stop : Stop) : Steady alike (MonadExcept.throw stop : Action W α) :=
  fun _ _ same => ⟨rfl, same⟩

theorem throw_bind (stop : Stop) (next : α → Action W β) :
    Steady alike (MonadExcept.throw stop >>= next) :=
  fun _ _ same => ⟨rfl, same⟩

theorem attempt (value : Except Fault α) : Steady alike (Action.attempt value : Action W α) := by
  cases value with
  | ok value => exact pure value
  | error fault => exact throw _

theorem bind {action : Action W α} {next : α → Action W β} (steady : Steady alike action)
    (later : ∀ value, Steady alike (next value)) : Steady alike (action >>= next) := by
  intro first second same
  obtain ⟨ends, leaves⟩ := steady first second same
  rcases ranFirst : action.outcome first with ⟨stop | value, firstLeft⟩
  · rcases ranSecond : action.outcome second with ⟨_ | _, secondLeft⟩
    · rw [ranFirst, ranSecond] at ends leaves
      cases ends
      rw [outcome_bind_error ranFirst, outcome_bind_error ranSecond]
      exact ⟨rfl, leaves⟩
    · rw [ranFirst, ranSecond] at ends
      cases ends
  · rcases ranSecond : action.outcome second with ⟨_ | _, secondLeft⟩
    · rw [ranFirst, ranSecond] at ends
      cases ends
    · rw [ranFirst, ranSecond] at ends leaves
      cases ends
      rw [outcome_bind_ok ranFirst, outcome_bind_ok ranSecond]
      exact later value _ _ leaves

theorem ite {condition : Prop} [Decidable condition] {action other : Action W α}
    (steady : Steady alike action) (otherwise : Steady alike other) :
    Steady alike (if condition then action else other) := by
  split
  · exact steady
  · exact otherwise

end Steady

end Action

/-! ### What a likeness has to withstand -/

/-- A call that only concerns one dimension and leaves its entities alone. -/
def WorldCall.isModest (home : WorldId) : WorldCall → Prop
  | isLoaded world _ => world = home
  | isInBounds world _ => world = home
  | block world _ => world = home
  | isProtected world _ _ => world = home
  | setBlock world _ _ => world = home
  | spawn .. => False
  | remove .. => False

variable [World W]

/-- Scenes of a turtle in one dimension may count as alike. The turtles differ in the serials of
their entities at most, and the likeness outlasts all that the standard commands do. -/
structure Likeness (home : WorldId) (attached : Bool) (alike : Scene W → Scene W → Prop) :
    Prop where
  reborn {first second : Scene W} (same : alike first second) :
    ∃ serial, second.turtle = first.turtle.reborn serial
  settled {first second : Scene W} (same : alike first second) :
    first.turtle.world = home ∧ first.turtle.attached = attached
  manage {first second : Scene W} (same : alike first second) (facing : Facing)
    (selectedSlot : Nat) (inventory : Inventory) (fuel : FuelTank) :
    alike
      { first with turtle := { first.turtle with facing, selectedSlot, inventory, fuel } }
      { second with turtle := { second.turtle with facing, selectedSlot, inventory, fuel } }
  begin {first second : Scene W} (same : alike first second) {kind : AnimationKind}
    {animation : Animation} (begun : first.turtle.animation.begin kind = .ok animation) :
    alike
      { first with turtle := { first.turtle with animation } }
      { second with turtle := { second.turtle with animation } }
  setUpgrade (side : Side) (upgrade : Option Upgrade) :
    Action.Steady alike (Action.setUpgrade side upgrade attached)
  ask {call : WorldCall} (modest : call.isModest home) : Action.Steady alike (Action.ask call)
  relocate (pos : BlockPos) : Action.Steady alike (Action.relocate home pos)

namespace Action.Steady

variable {home : WorldId} {attached : Bool} {alike : Scene W → Scene W → Prop}

/-- Reading the turtle is steady if what comes next does not look at the serial of its entity. -/
theorem withTurtle (likeness : Likeness home attached alike) {next : Turtle → Action W α}
    (blind : ∀ turtle serial, next (turtle.reborn serial) = next turtle)
    (steady : ∀ turtle, turtle.world = home → turtle.attached = attached →
      Steady alike (next turtle)) :
    Steady alike (Action.turtle >>= next) := by
  intro first second same
  obtain ⟨serial, turtle⟩ := likeness.reborn same
  obtain ⟨world, joined⟩ := likeness.settled same
  have left : (Action.turtle >>= next).outcome first = (next first.turtle).outcome first := rfl
  have right : (Action.turtle >>= next).outcome second = (next first.turtle).outcome second := by
    rw [← blind first.turtle serial, ← turtle]
    rfl
  rw [left, right]
  exact steady first.turtle world joined first second same

/-- A change that only concerns what the turtle manages itself. -/
theorem modifyTurtle (likeness : Likeness home attached alike) {f : Turtle → Turtle}
    (blind : ∀ turtle serial, f (turtle.reborn serial) = (f turtle).reborn serial)
    (managed : ∀ turtle, f turtle = { turtle with
      facing := (f turtle).facing, selectedSlot := (f turtle).selectedSlot
      inventory := (f turtle).inventory, fuel := (f turtle).fuel }) :
    Steady alike (Action.modifyTurtle f) := by
  intro first second same
  obtain ⟨serial, turtle⟩ := likeness.reborn same
  have changed : f second.turtle = { second.turtle with
      facing := (f first.turtle).facing, selectedSlot := (f first.turtle).selectedSlot
      inventory := (f first.turtle).inventory, fuel := (f first.turtle).fuel } := by
    rw [turtle, blind, managed]
    rfl
  refine ⟨rfl, ?_⟩
  show alike { first with turtle := f first.turtle } { second with turtle := f second.turtle }
  rw [changed, managed first.turtle]
  exact likeness.manage same _ _ _ _

theorem setInventory (likeness : Likeness home attached alike) (inventory : Inventory) :
    Steady alike (Action.setInventory inventory) :=
  modifyTurtle likeness (fun _ _ => rfl) fun _ => rfl

theorem beginAnimation (likeness : Likeness home attached alike) (kind : AnimationKind) :
    Steady alike (Action.beginAnimation kind) := by
  intro first second same
  obtain ⟨serial, turtle⟩ := likeness.reborn same
  have playing : second.turtle.animation = first.turtle.animation := by rw [turtle]; rfl
  have outcome (scene : Scene W) : (Action.beginAnimation kind).outcome scene =
      match scene.turtle.animation.begin kind with
      | .ok animation =>
        (.ok (), { scene with turtle := { scene.turtle with animation } })
      | .error fault => (.error (.fault fault), scene) := by
    have opened : (Action.beginAnimation kind).outcome scene =
        (Action.attempt (scene.turtle.animation.begin kind) >>= fun animation =>
          Action.modifyTurtle ({ · with animation })).outcome scene := rfl
    rw [opened]
    cases scene.turtle.animation.begin kind <;> rfl
  rw [outcome, outcome, playing]
  cases begun : first.turtle.animation.begin kind with
  | ok animation => exact ⟨rfl, likeness.begin same begun⟩
  | error fault => exact ⟨rfl, same⟩

theorem isProtected (likeness : Likeness home attached alike) (pos : BlockPos) :
    Steady alike (Action.isProtected home pos) := by
  apply withTurtle likeness (fun _ _ => rfl)
  intro turtle _ _
  exact likeness.ask rfl

theorem writeBlock (likeness : Likeness home attached alike) (pos : BlockPos) (block : Block) :
    Steady alike (Action.writeBlock home pos block) := by
  refine bind (likeness.ask rfl) fun reply => ?_
  cases reply with
  | ok _ => exact pure _
  | error cause => exact reject _

end Action.Steady

/-! ### Invariants of a single scene -/

/-- Equal scenes, of which something holds. -/
def Diagonal (kept : Scene W → Prop) (first second : Scene W) : Prop := first = second ∧ kept first

/-- The action keeps an invariant, however it ends. -/
def Action.Keeps (kept : Scene W → Prop) (action : Action W α) : Prop :=
  ∀ scene, kept scene → kept (action.outcome scene).2

omit [World W] in
theorem Action.Keeps.steady {kept : Scene W → Prop} {action : Action W α}
    (keeps : Action.Keeps kept action) : Action.Steady (Diagonal kept) action := by
  rintro first second ⟨same, holds⟩
  subst same
  exact ⟨rfl, rfl, keeps first holds⟩

omit [World W] in
theorem Action.Steady.keeps {kept : Scene W → Prop} {action : Action W α}
    (steady : Action.Steady (Diagonal kept) action) : Action.Keeps kept action :=
  fun scene holds => (steady scene scene ⟨rfl, holds⟩).2.2

/-- What an invariant has to withstand so that all standard commands keep it. -/
theorem Likeness.diagonal {home : WorldId} {attached : Bool} {kept : Scene W → Prop}
    (settled : ∀ {scene}, kept scene →
      scene.turtle.world = home ∧ scene.turtle.attached = attached)
    (manage : ∀ {scene}, kept scene → ∀ facing selectedSlot inventory fuel,
      kept { scene with turtle := { scene.turtle with facing, selectedSlot, inventory, fuel } })
    (begin : ∀ {scene}, kept scene → ∀ {kind animation},
      scene.turtle.animation.begin kind = .ok animation →
        kept { scene with turtle := { scene.turtle with animation } })
    (setUpgrade : ∀ side upgrade, Action.Keeps kept (Action.setUpgrade side upgrade attached))
    (ask : ∀ {call : WorldCall}, call.isModest home → Action.Keeps kept (Action.ask call))
    (relocate : ∀ pos, Action.Keeps kept (Action.relocate home pos)) :
    Likeness home attached (Diagonal kept) where
  reborn := by
    rintro first second ⟨rfl, _⟩
    exact ⟨first.turtle.entity.serial, rfl⟩
  settled same := settled same.2
  manage := by
    rintro first second ⟨rfl, holds⟩ facing selectedSlot inventory fuel
    exact ⟨rfl, manage holds facing selectedSlot inventory fuel⟩
  begin := by
    rintro first second ⟨rfl, holds⟩ kind animation begun
    exact ⟨rfl, begin holds begun⟩
  setUpgrade side upgrade := (setUpgrade side upgrade).steady
  ask modest := (ask modest).steady
  relocate pos := (relocate pos).steady

/-! ### The standard commands -/

namespace Action.Steady

variable {home : WorldId} {attached : Bool} {alike : Scene W → Scene W → Prop}

theorem move (likeness : Likeness home attached alike) (direction : MoveDirection) :
    Steady alike (Action.move direction) := by
  apply withTurtle likeness (fun _ _ => rfl)
  intro turtle world _
  dsimp only
  rw [world]
  refine bind (likeness.ask rfl) fun bounded => ite ?_ (reject_bind _ _)
  refine bind (likeness.ask rfl) fun loaded => ite ?_ (reject_bind _ _)
  refine bind (likeness.ask rfl) fun block => ite ?_ (reject_bind _ _)
  refine bind (isProtected likeness _) fun guarded => ite (reject_bind _ _) ?_
  refine ite ?_ (reject_bind _ _)
  refine bind (likeness.relocate _) fun there => ite ?_ (reject_bind _ _)
  refine bind (modifyTurtle likeness (fun _ _ => rfl) fun _ => rfl) fun _ => ?_
  exact bind (beginAnimation likeness _) fun _ => pure _

theorem turn (likeness : Likeness home attached alike) (direction : TurnDirection) :
    Steady alike (Action.turn direction : Action W (List Json)) := by
  refine bind (modifyTurtle likeness (fun _ _ => rfl) fun _ => rfl) fun _ => ?_
  exact bind (beginAnimation likeness _) fun _ => pure _

omit [World W] in
theorem stow (inventory : Inventory) (start : Nat) (stack : ItemStack) :
    Steady alike (Action.stow inventory start stack : Action W Inventory) := by
  refine bind (attempt _) fun rest => ite (reject_bind _ _) (pure _)

theorem dig (likeness : Likeness home attached alike) (direction : ReachDirection)
    (side : Option Side) : Steady alike (Action.dig direction side : Action W (List Json)) := by
  apply withTurtle likeness (fun _ _ => rfl)
  intro turtle world _
  dsimp only
  rw [world]
  cases turtle.diggingSide? side with
  | none => exact reject _
  | some side =>
    refine bind (likeness.ask rfl) fun block => ite (reject_bind _ _) ?_
    refine ite (reject_bind _ _) ?_
    refine bind (isProtected likeness _) fun guarded => ite (reject_bind _ _) ?_
    apply bind (stow _ _ _)
    intro inventory
    apply bind (writeBlock likeness _ _)
    intro _
    apply bind (setInventory likeness _)
    intro _
    exact bind (beginAnimation likeness _) fun _ => pure _

theorem isPlaceable (likeness : Likeness home attached alike) (pos : BlockPos) :
    Steady alike (Action.isPlaceable home pos) := by
  refine bind (likeness.ask rfl) fun loaded => ite ?_ (pure _)
  refine bind (likeness.ask rfl) fun bounded => ite ?_ (pure _)
  refine bind (likeness.ask rfl) fun block => ite ?_ (pure _)
  exact bind (isProtected likeness _) fun guarded => pure _

theorem place (likeness : Likeness home attached alike) (direction : ReachDirection) :
    Steady alike (Action.place direction : Action W (List Json)) := by
  apply withTurtle likeness (fun _ _ => rfl)
  intro turtle world _
  dsimp only
  rw [world]
  cases turtle.inventory.get? turtle.selectedSlot with
  | none => exact reject _
  | some stack =>
    refine bind (isPlaceable likeness _) fun free => ite ?_ (reject_bind _ _)
    apply bind (writeBlock likeness _ _)
    intro _
    refine bind (modifyTurtle likeness (fun _ _ => rfl) fun _ => rfl) fun _ => ?_
    exact bind (beginAnimation likeness _) fun _ => pure _

theorem detect (likeness : Likeness home attached alike) (direction : ReachDirection) :
    Steady alike (Action.detect direction : Action W (List Json)) := by
  apply withTurtle likeness (fun _ _ => rfl)
  intro turtle world _
  rw [world]
  exact bind (likeness.ask rfl) fun block => pure _

theorem inspect (likeness : Likeness home attached alike) (direction : ReachDirection) :
    Steady alike (Action.inspect direction : Action W (List Json)) := by
  apply withTurtle likeness (fun _ _ => rfl)
  intro turtle world _
  rw [world]
  exact bind (likeness.ask rfl) fun block => ite (reject_bind _ _) (pure _)

theorem fuelLevel (likeness : Likeness home attached alike) :
    Steady alike (Action.fuelLevel : Action W (List Json)) :=
  withTurtle likeness (fun _ _ => rfl) fun _ _ _ => pure _

theorem select (likeness : Likeness home attached alike) (slot : Nat) :
    Steady alike (Action.select slot : Action W (List Json)) := by
  have opened : (Action.select slot : Action W (List Json)) =
      if slot < slotCount then do
        Action.modifyTurtle ({ · with selectedSlot := slot })
        return []
      else Action.reject "Slot number out of range" := by
    funext scene
    by_cases small : slot < slotCount
    · simp only [Action.select, Turtle.select, small, ↓reduceIte]
      rfl
    · simp only [Action.select, Turtle.select, small, ↓reduceIte]
      rfl
  rw [opened]
  refine ite ?_ (reject _)
  exact bind (modifyTurtle likeness (fun _ _ => rfl) fun _ => rfl) fun _ => pure _

theorem refuel (likeness : Likeness home attached alike) (settings : Settings) (limit : Nat) :
    Steady alike (Action.refuel settings limit : Action W (List Json)) := by
  refine withTurtle likeness (fun _ _ => rfl) fun turtle _ _ => ite ?_ (pure _)
  dsimp only
  cases turtle.inventory.get? turtle.selectedSlot with
  | none => exact reject _
  | some stack =>
    dsimp only
    cases settings.fuelValue? stack.id with
    | none => exact reject _
    | some value =>
      refine ite (pure _) ?_
      rcases turtle.inventory.take turtle.selectedSlot limit with ⟨_ | burnt, inventory⟩
      · exact reject _
      · apply bind (setInventory likeness _)
        intro _
        refine bind (modifyTurtle likeness (fun _ _ => rfl) fun _ => rfl) fun _ => ?_
        apply bind (attempt _)
        intro _
        exact bind (beginAnimation likeness _) fun _ => pure _

theorem transferTo (likeness : Likeness home attached alike) (slot count : Nat) :
    Steady alike (Action.transferTo slot count : Action W (List Json)) := by
  refine ite ?_ (reject_bind _ _)
  apply withTurtle likeness (fun _ _ => rfl)
  intro turtle _ _
  refine ite (pure _) ?_
  have counted (moved : Nat) : Steady alike (do
      if moved = 0 then Action.reject noSpace
      Action.beginAnimation .shortWait
      return [] : Action W (List Json)) :=
    ite (reject_bind _ _) (bind (beginAnimation likeness _) fun _ => pure _)
  rcases turtle.inventory.take turtle.selectedSlot count with ⟨_ | taken, inventory⟩
  · exact pure _
  dsimp only
  rcases inventory.insertInto slot taken with ⟨_ | rest, inventory⟩
  · exact bind (setInventory likeness _) fun _ => bind (pure _) fun moved => counted moved
  · refine bind (setInventory likeness _) fun _ => bind (attempt _) fun moved => ?_
    apply bind (setInventory likeness _)
    intro _
    exact bind (pure _) fun moved => counted moved

/-- The rest of an exchange, once the upgrades that come and go are known. -/
theorem exchange (likeness : Likeness home attached alike) (side : Side)
    (incoming outgoing : Option Upgrade) (inventory : Inventory) (slot : Nat) :
    Steady alike (do
      let inventory ← match outgoing with
        | some upgrade => Action.stow inventory slot (.single upgrade.id)
        | none => Pure.pure inventory
      Action.setInventory inventory
      let _ ← Action.setUpgrade side incoming attached
      Action.beginAnimation .wait
      return [] : Action W (List Json)) := by
  have stored (inventory : Inventory) : Steady alike (do
      Action.setInventory inventory
      let _ ← Action.setUpgrade side incoming attached
      Action.beginAnimation .wait
      return [] : Action W (List Json)) := by
    apply bind (setInventory likeness _)
    intro _
    apply bind (likeness.setUpgrade side incoming)
    intro _
    exact bind (beginAnimation likeness _) fun _ => pure _
  cases outgoing with
  | none => exact bind (pure _) fun inventory => stored inventory
  | some outgoing => exact bind (stow _ _ _) fun inventory => stored inventory

theorem equip (likeness : Likeness home attached alike) (catalog : Catalog) (side : Side) :
    Steady alike (Action.equip catalog side : Action W (List Json)) := by
  apply withTurtle likeness (fun _ _ => rfl)
  intro turtle _ joined
  dsimp only
  rw [joined]
  cases turtle.inventory.get? turtle.selectedSlot with
  | none => exact bind (pure _) fun incoming => ite (pure _) (exchange likeness _ _ _ _ _)
  | some stack =>
    dsimp only
    cases Keyed.get? catalog stack.id with
    | none => exact reject_bind _ _
    | some upgrade =>
      exact bind (pure _) fun incoming => ite (pure _) (exchange likeness _ _ _ _ _)

end Action.Steady

/-- Every standard command is steady. -/
theorem TurtleCommand.steady {home : WorldId} {attached : Bool}
    {alike : Scene W → Scene W → Prop} (likeness : Likeness home attached alike)
    (command : TurtleCommand) (context : Context) : Action.Steady alike (command.execute context) := by
  cases command with
  | move direction => exact .move likeness direction
  | turn direction => exact .turn likeness direction
  | dig direction side => exact .dig likeness direction side
  | place direction => exact .place likeness direction
  | detect direction => exact .detect likeness direction
  | inspect direction => exact .inspect likeness direction
  | select slot => exact .select likeness slot
  | refuel limit => exact .refuel likeness context.settings limit
  | transferTo slot count => exact .transferTo likeness slot count
  | equip side => exact .equip likeness context.catalog side
  | getFuelLevel => exact .fuelLevel likeness

end TurtleFleet
