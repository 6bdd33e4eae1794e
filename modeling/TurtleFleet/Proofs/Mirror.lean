import TurtleFleet.Proofs.Relocation
import TurtleFleet.Proofs.Wiring

/-! Mirrors: a turtle at work in its own dimension of two worlds, which may differ in all other
dimensions and in the serials that they give to entities. The standard commands end the same way on
both sides, and touch no other dimension. -/

namespace TurtleFleet

/-! ### A dimension without serials -/

/-- The dimension in which the serials of all entities are the same. -/
def Dimension.unnumbered (dimension : Dimension) : Dimension :=
  { dimension with
    entities := dimension.entities.map fun entry => (entry.1, { entry.2 with serial := 0 }) }

namespace Dimension

theorem isSome_entityAt?_unnumbered (dimension : Dimension) (pos : BlockPos) :
    (dimension.unnumbered.entityAt? pos).isSome = (dimension.entityAt? pos).isSome := by
  unfold unnumbered entityAt?
  induction dimension.entities with
  | nil => rfl
  | cons head rest ih =>
    rw [List.map_cons, Keyed.lookup_cons_eq, Keyed.lookup_cons_eq]
    split
    · rfl
    · exact ih

theorem block_unnumbered (dimension : Dimension) (pos : BlockPos) :
    dimension.unnumbered.block pos = dimension.block pos := by
  unfold block
  rw [isSome_entityAt?_unnumbered]
  rfl

theorem unnumbered_removeEntity (dimension : Dimension) (pos : BlockPos) :
    (dimension.removeEntity pos).unnumbered = dimension.unnumbered.removeEntity pos := by
  simp only [unnumbered, removeEntity, List.filter_map]
  rfl

end Dimension

namespace MemoryWorld

/-- One dimension of a world, its serials left aside. -/
def view? (memory : MemoryWorld) (world : WorldId) : Option Dimension :=
  (memory.dimensions.get? world).map Dimension.unnumbered

variable {memory : MemoryWorld} {world : WorldId}

theorem isLoaded_eq (memory : MemoryWorld) (world : WorldId) (pos : BlockPos) :
    memory.isLoaded world pos = (memory.view? world).any (·.isLoaded pos) := by
  unfold isLoaded view?
  cases memory.dimensions.get? world <;> rfl

theorem isInBounds_eq (memory : MemoryWorld) (world : WorldId) (pos : BlockPos) :
    memory.isInBounds world pos = (memory.view? world).any (·.bounds.contains pos) := by
  unfold isInBounds view?
  cases memory.dimensions.get? world <;> rfl

theorem isProtected_eq (memory : MemoryWorld) (world : WorldId) (pos : BlockPos) :
    memory.isProtected world pos = (memory.view? world).any (·.isProtected pos) := by
  unfold isProtected view?
  cases memory.dimensions.get? world <;> rfl

theorem block_eq (memory : MemoryWorld) (world : WorldId) (pos : BlockPos) :
    memory.block world pos = ((memory.view? world).map (·.block pos)).getD .air := by
  unfold block view?
  cases memory.dimensions.get? world with
  | none => rfl
  | some dimension => exact (dimension.block_unnumbered pos).symm

theorem setBlock_eq (memory : MemoryWorld) (world : WorldId) (pos : BlockPos) (block : Block) :
    memory.setBlock world pos block =
      match memory.view? world with
      | none => (.error (.unknownWorld world), memory)
      | some dimension =>
        if dimension.isLoaded pos then (.ok (), memory.putBlock world pos block)
        else (.error (.notLoaded world pos), memory) := by
  unfold setBlock loadedDimension view?
  cases memory.dimensions.get? world with
  | none => rfl
  | some dimension =>
    have same : dimension.unnumbered.isLoaded pos = dimension.isLoaded pos := rfl
    simp only [Option.map_some, same]
    by_cases loaded : dimension.isLoaded pos = true <;> simp [loaded]

/-- Whether a turtle could be put at a place. -/
def isFree (memory : MemoryWorld) (world : WorldId) (pos : BlockPos) : Bool :=
  (memory.dimensions.get? world).any fun dimension =>
    dimension.isLoaded pos && (dimension.entityAt? pos).isNone

theorem isFree_eq (memory : MemoryWorld) (world : WorldId) (pos : BlockPos) :
    memory.isFree world pos = (memory.view? world).any fun dimension =>
      dimension.isLoaded pos && (dimension.entityAt? pos).isNone := by
  unfold isFree view?
  cases memory.dimensions.get? world with
  | none => rfl
  | some dimension =>
    have same := dimension.isSome_entityAt?_unnumbered pos
    simp only [Option.any_some, Option.map_some]
    rw [← Option.not_isSome, ← Option.not_isSome, same]
    rfl

theorem view?_change {f g : Dimension → Dimension}
    (blind : ∀ dimension, (f dimension).unnumbered = g dimension.unnumbered) :
    (memory.change world f).view? world = (memory.view? world).map g := by
  unfold view? change
  rw [Keyed.get?_adjust, if_pos rfl]
  cases memory.dimensions.get? world with
  | none => rfl
  | some dimension => exact congrArg some (blind dimension)

theorem get?_change_of_ne {f : Dimension → Dimension} {other : WorldId} (apart : other ≠ world) :
    (memory.change world f).dimensions.get? other = memory.dimensions.get? other := by
  unfold change
  rw [Keyed.get?_adjust, if_neg apart]

/-- The next spawn neither fails without a reason nor makes anything but a turtle. -/
def Unarmed (memory : MemoryWorld) : Prop :=
  memory.nextSpawnError = none ∧ memory.nextSpawnKind = none

/-- Two worlds agree on one dimension. -/
structure Mirrors (home : WorldId) (first second : MemoryWorld) : Prop where
  view : first.view? home = second.view? home
  unarmed : first.Unarmed
  unarmedToo : second.Unarmed

theorem Mirrors.change {home : WorldId} {first second : MemoryWorld}
    (mirrors : first.Mirrors home second) {f g h : Dimension → Dimension}
    (blind : ∀ dimension, (f dimension).unnumbered = h dimension.unnumbered)
    (blindToo : ∀ dimension, (g dimension).unnumbered = h dimension.unnumbered) :
    (first.change home f).Mirrors home (second.change home g) where
  view := by rw [view?_change blind, view?_change blindToo, mirrors.view]
  unarmed := mirrors.unarmed
  unarmedToo := mirrors.unarmedToo

/-- A block is written on both sides, or refused on both. -/
theorem Mirrors.setBlock {home : WorldId} {first second : MemoryWorld}
    (mirrors : first.Mirrors home second) (pos : BlockPos) (block : Block) :
    (second.setBlock home pos block).1 = (first.setBlock home pos block).1 ∧
      (first.setBlock home pos block).2.Mirrors home (second.setBlock home pos block).2 ∧
      ∀ other, other ≠ home →
        (first.setBlock home pos block).2.dimensions.get? other = first.dimensions.get? other := by
  rw [first.setBlock_eq, second.setBlock_eq, ← mirrors.view]
  cases first.view? home with
  | none => exact ⟨rfl, mirrors, fun _ _ => rfl⟩
  | some dimension =>
    cases loaded : dimension.isLoaded pos with
    | false =>
      simp only [loaded, Bool.false_eq_true, ↓reduceIte]
      exact ⟨trivial, mirrors, fun _ _ => trivial⟩
    | true =>
      simp only [loaded, ↓reduceIte]
      refine ⟨trivial, ?_, fun other apart => get?_change_of_ne apart⟩
      exact mirrors.change (h := (·.write pos block)) (fun _ => rfl) fun _ => rfl

/-! ### Spawns without a surprise -/

/-- An entity that cannot be made leaves everything as it was. -/
theorem spawn_of_taken (unarmed : memory.Unarmed) {pos : BlockPos}
    (taken : memory.isFree world pos = false) (template : TurtleSnapshot) :
    ∃ cause after, memory.spawn world pos template = (.error cause, after) ∧
      after.dimensions = memory.dimensions ∧ after.Unarmed := by
  obtain ⟨reliable, plain⟩ := unarmed
  unfold spawn loadedDimension
  unfold isFree at taken
  simp only [reliable]
  cases found : memory.dimensions.get? world with
  | none => exact ⟨_, _, rfl, rfl, rfl, plain⟩
  | some dimension =>
    rw [found, Option.any_some] at taken
    cases loaded : dimension.isLoaded pos with
    | false =>
      simp only [loaded, Bool.false_eq_true, ↓reduceIte]
      exact ⟨_, _, rfl, rfl, rfl, plain⟩
    | true =>
      have occupied : (dimension.entityAt? pos).isSome = true := by
        simpa [loaded] using taken
      simp only [loaded, occupied, ↓reduceIte]
      exact ⟨_, _, rfl, rfl, rfl, plain⟩

theorem spawn_of_free (unarmed : memory.Unarmed) {pos : BlockPos}
    (free : memory.isFree world pos = true) (template : TurtleSnapshot) :
    ∃ serial after,
      memory.spawn world pos template = (.ok { world, pos, kind := .turtle, serial }, after) ∧
      after.dimensions =
        (memory.change world (·.addEntity pos { serial, kind := .turtle, template })).dimensions ∧
      after.Unarmed := by
  obtain ⟨reliable, plain⟩ := unarmed
  unfold spawn loadedDimension
  unfold isFree at free
  simp only [reliable, plain]
  cases found : memory.dimensions.get? world with
  | none =>
    rw [found] at free
    cases free
  | some dimension =>
    rw [found, Option.any_some, Bool.and_eq_true, Option.isNone_iff_eq_none] at free
    simp only [free.1, free.2, ↓reduceIte, Option.isSome_none, Bool.false_eq_true,
      Option.getD_none]
    exact ⟨_, _, rfl, rfl, rfl, rfl⟩

theorem Unarmed.spawn (unarmed : memory.Unarmed) (world : WorldId) (pos : BlockPos)
    (template : TurtleSnapshot) : (memory.spawn world pos template).2.Unarmed := by
  cases free : memory.isFree world pos with
  | false =>
    obtain ⟨cause, after, spawned, _, calm⟩ := spawn_of_taken unarmed free template
    rw [spawned]
    exact calm
  | true =>
    obtain ⟨serial, after, spawned, _, calm⟩ := spawn_of_free unarmed free template
    rw [spawned]
    exact calm

end MemoryWorld

namespace Action

variable {memory : MemoryWorld}

theorem replacement_of_taken (unarmed : memory.Unarmed) (turtle : Turtle) {world : WorldId}
    {pos : BlockPos} (taken : memory.isFree world pos = false) :
    ∃ after, replacement turtle memory world pos = (false, turtle, after) ∧
      after.dimensions = memory.dimensions ∧ after.Unarmed := by
  obtain ⟨cause, after, spawned, same, calm⟩ :=
    MemoryWorld.spawn_of_taken unarmed taken turtle.snapshot
  refine ⟨after, ?_, same, calm⟩
  rw [replacement, spawned]

/-- Where there is room the turtle gets a new entity, and its old one goes away. -/
theorem replacement_of_free (unarmed : memory.Unarmed) (turtle : Turtle) {world : WorldId}
    {pos : BlockPos} (free : memory.isFree world pos = true) :
    ∃ serial after, replacement turtle memory world pos =
        (true, { turtle with entity := { world, pos, kind := .turtle, serial } }, after) ∧
      after.dimensions = ((memory.change world (·.addEntity pos
        { serial, kind := .turtle, template := turtle.snapshot })).change turtle.world
          (·.removeEntity turtle.pos)).dimensions ∧
      after.Unarmed := by
  obtain ⟨serial, between, spawned, made, calm⟩ :=
    MemoryWorld.spawn_of_free unarmed free turtle.snapshot
  have right : isTurtleAt { world, pos, kind := .turtle, serial } world pos = true := by
    simp [isTurtleAt]
  refine ⟨serial, between.remove turtle.world turtle.pos, ?_, ?_, calm⟩
  · rw [replacement, spawned]
    simp only [right, ↓reduceIte]
  · have left : (between.remove turtle.world turtle.pos).dimensions =
        between.dimensions.adjust turtle.world (·.removeEntity turtle.pos) := rfl
    rw [left, made]
    rfl

/-- Of two mirrored worlds both make the new entity, or none does. -/
theorem replacement_mirrored {home : WorldId} {first second : MemoryWorld}
    (mirrors : first.Mirrors home second) {turtle : Turtle} (settled : turtle.world = home)
    (serial : Nat) (pos : BlockPos) :
    ∃ there entity serialToo after afterToo,
      replacement turtle first home pos = (there, { turtle with entity }, after) ∧
      replacement (turtle.reborn serial) second home pos =
        (there, Turtle.reborn { turtle with entity } serialToo, afterToo) ∧
      entity.world = home ∧ after.Mirrors home afterToo ∧
      ∀ other, other ≠ home → after.dimensions.get? other = first.dimensions.get? other := by
  have room : second.isFree home pos = first.isFree home pos := by
    rw [first.isFree_eq, second.isFree_eq, mirrors.view]
  cases free : first.isFree home pos with
  | false =>
    obtain ⟨after, ended, same, calm⟩ := replacement_of_taken mirrors.unarmed turtle free
    obtain ⟨afterToo, endedToo, sameToo, calmToo⟩ :=
      replacement_of_taken mirrors.unarmedToo (turtle.reborn serial) (room.trans free)
    refine ⟨false, turtle.entity, serial, after, afterToo, ended, endedToo, settled, ?_, ?_⟩
    · refine ⟨?_, calm, calmToo⟩
      rw [MemoryWorld.view?, MemoryWorld.view?, same, sameToo]
      exact mirrors.view
    · intro other apart
      rw [same]
  | true =>
    obtain ⟨made, after, ended, moved, calm⟩ := replacement_of_free mirrors.unarmed turtle free
    obtain ⟨madeToo, afterToo, endedToo, movedToo, calmToo⟩ :=
      replacement_of_free mirrors.unarmedToo (turtle.reborn serial) (room.trans free)
    have settledToo : (turtle.reborn serial).world = home := settled
    rw [settled] at moved
    rw [settledToo] at movedToo
    refine ⟨true, { world := home, pos, kind := .turtle, serial := made }, madeToo, after, afterToo,
      ended, endedToo, rfl, ?_, ?_⟩
    · -- both sides gain the same entity but for its serial, and lose the old one
      have arrived := mirrors.change
        (f := (·.addEntity pos { serial := made, kind := .turtle, template := turtle.snapshot }))
        (g := (·.addEntity pos { serial := madeToo, kind := .turtle, template := turtle.snapshot }))
        (h := (·.addEntity pos { serial := 0, kind := .turtle, template := turtle.snapshot }))
        (fun _ => rfl) fun _ => rfl
      have vacate (dimension : Dimension) := dimension.unnumbered_removeEntity turtle.pos
      have left := arrived.change (f := (·.removeEntity turtle.pos))
        (h := (·.removeEntity turtle.pos)) vacate vacate
      refine ⟨?_, calm, calmToo⟩
      rw [MemoryWorld.view?, MemoryWorld.view?, moved, movedToo]
      exact left.view
    · intro other apart
      rw [moved, MemoryWorld.get?_change_of_ne apart, MemoryWorld.get?_change_of_ne apart]

end Action

/-! ### Mirrored scenes -/

/-- A turtle as it is left between its commands while nobody else touches it. -/
structure Turtle.Neat (turtle : Turtle) : Prop where
  attached : turtle.attached = true
  fresh : ∀ side, (turtle.equipment.mount side).stale = false
  still : turtle.animation.playing = false → turtle.animation = turtle.animation.reset

/-- The second scene mirrors the first: the same turtle works in the same dimension, but for serials.
Beyond that dimension the first world is as it is framed. -/
structure Scene.Mirrors (home : WorldId) (frame : MemoryWorld) (first second : Scene MemoryWorld) :
    Prop where
  reborn : ∃ serial, second.turtle = first.turtle.reborn serial
  settled : first.turtle.world = home
  neat : first.turtle.Neat
  world : first.world.Mirrors home second.world
  beyond : ∀ other, other ≠ home →
    first.world.dimensions.get? other = frame.dimensions.get? other

namespace Scene.Mirrors

variable {home : WorldId} {frame : MemoryWorld} {first second : Scene MemoryWorld}

theorem manage (mirrors : Scene.Mirrors home frame first second) (facing : Facing)
    (selectedSlot : Nat) (inventory : Inventory) (fuel : FuelTank) :
    Scene.Mirrors home frame
      { first with turtle := { first.turtle with facing, selectedSlot, inventory, fuel } }
      { second with turtle := { second.turtle with facing, selectedSlot, inventory, fuel } } := by
  obtain ⟨serial, turtle⟩ := mirrors.reborn
  refine { mirrors with reborn := ⟨serial, ?_⟩, settled := mirrors.settled, neat := ?_ }
  · rw [turtle]
    rfl
  · exact { attached := mirrors.neat.attached, fresh := mirrors.neat.fresh,
            still := mirrors.neat.still }

theorem begin (mirrors : Scene.Mirrors home frame first second) {kind : AnimationKind}
    {animation : Animation} (begun : first.turtle.animation.begin kind = .ok animation) :
    Scene.Mirrors home frame
      { first with turtle := { first.turtle with animation } }
      { second with turtle := { second.turtle with animation } } := by
  obtain ⟨serial, turtle⟩ := mirrors.reborn
  refine { mirrors with reborn := ⟨serial, ?_⟩, settled := mirrors.settled, neat := ?_ }
  · rw [turtle]
    rfl
  · refine { attached := mirrors.neat.attached, fresh := mirrors.neat.fresh, still := fun idle => ?_ }
    unfold Animation.begin at begun
    split at begun
    · cases begun
    · split at begun
      · cases begun
        rfl
      · rename_i real
        cases begun
        exact absurd idle (by simp [Animation.playing, real])

theorem setUpgrade (side : Side) (upgrade : Option Upgrade) :
    Action.Steady (Scene.Mirrors home frame) (Action.setUpgrade side upgrade true) := by
  intro first second mirrors
  obtain ⟨serial, turtle⟩ := mirrors.reborn
  have outcome (scene : Scene MemoryWorld) : ∃ effects,
      (Action.setUpgrade side upgrade true).outcome scene =
        (.ok (scene.turtle.setUpgrade side upgrade true).1,
          { scene with turtle := (scene.turtle.setUpgrade side upgrade true).2.1, effects }) :=
    ⟨_, rfl⟩
  obtain ⟨effects, ended⟩ := outcome first
  obtain ⟨effectsToo, endedToo⟩ := outcome second
  rw [ended, endedToo, turtle]
  refine ⟨rfl, ?_⟩
  refine { mirrors with reborn := ⟨serial, rfl⟩, settled := mirrors.settled, neat := ?_ }
  exact { attached := mirrors.neat.attached
          fresh := (Equipment.evolves_set ..).fresh rfl mirrors.neat.fresh
          still := mirrors.neat.still }

theorem ask {call : WorldCall} (modest : call.isModest home) :
    Action.Steady (Scene.Mirrors home frame) (Action.ask call) := by
  intro first second mirrors
  have asked {reply : call.Reply} {after afterToo : MemoryWorld}
      (answered : World.answer call first.movers first.world = (.ok reply, after))
      (answeredToo : World.answer call second.movers second.world = (.ok reply, afterToo))
      (world : after.Mirrors home afterToo)
      (beyond : ∀ other, other ≠ home →
        after.dimensions.get? other = first.world.dimensions.get? other) :
      ((Action.ask call).outcome first).1 = ((Action.ask call).outcome second).1 ∧
        Scene.Mirrors home frame ((Action.ask call).outcome first).2
          ((Action.ask call).outcome second).2 := by
    obtain ⟨effects, ended⟩ := Action.outcome_ask answered
    obtain ⟨effectsToo, endedToo⟩ := Action.outcome_ask answeredToo
    rw [ended, endedToo]
    refine ⟨rfl, { mirrors with world := world, beyond := fun other apart => ?_ }⟩
    exact (beyond other apart).trans (mirrors.beyond other apart)
  have view := mirrors.world.view
  cases call with
  | isLoaded world pos =>
    cases modest
    refine asked rfl ?_ mirrors.world fun _ _ => rfl
    show (Except.ok (second.world.isLoaded home pos), second.world) = _
    rw [first.world.isLoaded_eq, second.world.isLoaded_eq, view]
  | isInBounds world pos =>
    cases modest
    refine asked rfl ?_ mirrors.world fun _ _ => rfl
    show (Except.ok (second.world.isInBounds home pos), second.world) = _
    rw [first.world.isInBounds_eq, second.world.isInBounds_eq, view]
  | block world pos =>
    cases modest
    refine asked rfl ?_ mirrors.world fun _ _ => rfl
    show (Except.ok (second.world.block home pos), second.world) = _
    rw [first.world.block_eq, second.world.block_eq, view]
  | isProtected world pos owner =>
    cases modest
    refine asked rfl ?_ mirrors.world fun _ _ => rfl
    show (Except.ok (second.world.isProtected home pos), second.world) = _
    rw [first.world.isProtected_eq, second.world.isProtected_eq, view]
  | setBlock world pos block =>
    cases modest
    have answer (memory : MemoryWorld) (movers : List TurtleId) :
        World.answer (.setBlock home pos block) movers memory =
          (.ok (memory.setBlock home pos block).1, (memory.setBlock home pos block).2) := rfl
    obtain ⟨same, world, beyond⟩ := mirrors.world.setBlock pos block
    refine asked (answer first.world first.movers) ?_ world beyond
    rw [answer, same]
  | spawn world pos template => exact modest.elim
  | remove world pos => exact modest.elim

/-- The entity of the turtle is replaced on both sides, or on none. -/
theorem replacement (mirrors : Scene.Mirrors home frame first second) (pos : BlockPos) :
    (Action.replacement first.turtle first.world home pos).1 =
        (Action.replacement second.turtle second.world home pos).1 ∧
      ∀ latch effects effectsToo, Scene.Mirrors home frame
        { first with
          turtle := { (Action.replacement first.turtle first.world home pos).2.1 with latch }
          world := (Action.replacement first.turtle first.world home pos).2.2
          effects }
        { second with
          turtle := { (Action.replacement second.turtle second.world home pos).2.1 with latch }
          world := (Action.replacement second.turtle second.world home pos).2.2
          effects := effectsToo } := by
  obtain ⟨serial, turtle⟩ := mirrors.reborn
  obtain ⟨there, entity, serialToo, after, afterToo, ended, endedToo, settled, world, beyond⟩ :=
    Action.replacement_mirrored mirrors.world mirrors.settled serial pos
  rw [turtle, ended, endedToo]
  refine ⟨rfl, fun latch effects effectsToo => ?_⟩
  refine { reborn := ⟨serialToo, rfl⟩, settled := settled, neat := ?_, world := world,
           beyond := fun other apart => ?_ }
  · exact ⟨mirrors.neat.attached, mirrors.neat.fresh, mirrors.neat.still⟩
  · exact (beyond other apart).trans (mirrors.beyond other apart)

theorem relocate (pos : BlockPos) :
    Action.Steady (Scene.Mirrors home frame) (Action.relocate home pos) := by
  intro first second mirrors
  obtain ⟨serial, turtle⟩ := mirrors.reborn
  obtain ⟨effects, ended⟩ := Action.outcome_relocate first home pos
  obtain ⟨effectsToo, endedToo⟩ := Action.outcome_relocate second home pos
  have same : Action.hindrance second.turtle second.world home pos =
      Action.hindrance first.turtle first.world home pos := by
    unfold Action.hindrance
    rw [first.world.isLoaded_eq, second.world.isLoaded_eq, first.world.isInBounds_eq,
      second.world.isInBounds_eq, mirrors.world.view, turtle]
    rfl
  have replaced := mirrors.replacement pos
  rw [ended, endedToo]
  unfold Action.relocation
  rw [same]
  cases Action.hindrance first.turtle first.world home pos with
  | some ending => exact ⟨rfl, { mirrors with }⟩
  | none => exact ⟨congrArg Except.ok replaced.1, replaced.2 false effects effectsToo⟩

theorem likeness : Likeness home true (Scene.Mirrors home frame) where
  reborn mirrors := mirrors.reborn
  settled mirrors := ⟨mirrors.settled, mirrors.neat.attached⟩
  manage mirrors := mirrors.manage
  begin mirrors := mirrors.begin
  setUpgrade := setUpgrade
  ask := ask
  relocate := relocate

end Scene.Mirrors

end TurtleFleet
