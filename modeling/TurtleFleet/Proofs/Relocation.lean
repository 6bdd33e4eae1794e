import TurtleFleet.Proofs.Steady
import TurtleFleet.World.Memory

/-! What a relocation comes to in a world held in memory: every way in which it can end, with the
turtle and the world that it leaves behind. -/

namespace TurtleFleet

namespace Action

/-- How a call to a world held in memory ends. -/
theorem outcome_ask {call : WorldCall} {scene : Scene MemoryWorld} {reply : call.Reply}
    {after : MemoryWorld} (answered : World.answer call scene.movers scene.world = (.ok reply, after)) :
    ∃ effects, (ask call).outcome scene = (.ok reply, { scene with world := after, effects }) := by
  refine ⟨scene.effects ++
    [.world call (if call.fulfilled reply then .fulfilled else .refused) scene.movers], ?_⟩
  simp only [outcome, ask, answered]

/-- The answer, the turtle and the world after the entity of a turtle was to be replaced. -/
def replacement (turtle : Turtle) (memory : MemoryWorld) (world : WorldId) (pos : BlockPos) :
    Bool × Turtle × MemoryWorld :=
  match memory.spawn world pos turtle.snapshot with
  | (.error _, memory) => (false, turtle, memory)
  | (.ok entity, memory) =>
    if isTurtleAt entity world pos then
      (true, { turtle with entity }, memory.remove turtle.world turtle.pos)
    else (false, turtle, memory.remove entity.world entity.pos)

theorem outcome_replaceEntity (scene : Scene MemoryWorld) (world : WorldId) (pos : BlockPos) :
    ∃ effects, (replaceEntity world pos).outcome scene =
      (.ok (replacement scene.turtle scene.world world pos).1,
        { scene with
          turtle := (replacement scene.turtle scene.world world pos).2.1
          world := (replacement scene.turtle scene.world world pos).2.2
          effects }) := by
  have read : (turtle : Action MemoryWorld Turtle).outcome scene = (.ok scene.turtle, scene) := rfl
  have answered : World.answer (.spawn world pos scene.turtle.snapshot) scene.movers scene.world =
      (.ok (scene.world.spawn world pos scene.turtle.snapshot).1,
        (scene.world.spawn world pos scene.turtle.snapshot).2) := rfl
  obtain ⟨effects, asked⟩ := outcome_ask answered
  rw [replaceEntity, outcome_bind_ok read, spawn, outcome_bind_ok asked]
  unfold replacement
  rcases scene.world.spawn world pos scene.turtle.snapshot with ⟨_ | entity, memory⟩
  · exact ⟨effects, rfl⟩
  · by_cases right : isTurtleAt entity world pos = true
    · simp only [right, ↓reduceIte]
      exact ⟨_, rfl⟩
    · simp only [right, Bool.false_eq_true, ↓reduceIte]
      exact ⟨_, rfl⟩

theorem replacement_latch (turtle : Turtle) (latch : Bool) (memory : MemoryWorld)
    (world : WorldId) (pos : BlockPos) :
    replacement { turtle with latch } memory world pos =
      ((replacement turtle memory world pos).1,
        { (replacement turtle memory world pos).2.1 with latch },
        (replacement turtle memory world pos).2.2) := by
  have same : ({ turtle with latch } : Turtle).snapshot = turtle.snapshot := rfl
  unfold replacement
  rw [same]
  rcases memory.spawn world pos turtle.snapshot with ⟨_ | entity, memory⟩
  · rfl
  · by_cases right : isTurtleAt entity world pos = true
    · simp only [right, ↓reduceIte]
      rfl
    · simp only [right, Bool.false_eq_true, ↓reduceIte]

/-- The latch is engaged while the action runs and released afterwards. -/
theorem outcome_latched {W α : Type} (action : Action W α) (scene : Scene W) :
    (latched action).outcome scene =
      ((action.outcome { scene with turtle := { scene.turtle with latch := true } }).1,
        let left := (action.outcome { scene with turtle := { scene.turtle with latch := true } }).2
        { left with turtle := { left.turtle with latch := false } }) := by
  unfold outcome latched
  cases ran : action { scene with turtle := { scene.turtle with latch := true } } <;>
    simp only [ran]

/-- How a relocation ends that does not come to a replacement. -/
def hindrance (turtle : Turtle) (memory : MemoryWorld) (world : WorldId) (pos : BlockPos) :
    Option (Except Stop Bool) :=
  if turtle.world = world ∧ turtle.pos = pos then some (.ok true)
  else if !memory.isLoaded world pos then some (.ok false)
  else if !memory.isInBounds world pos then some (.ok false)
  else if turtle.animation.kind.isMovement then some (.error (.fault .relocatedMidMove))
  else if turtle.latch then some (.ok false)
  else none

/-- The ending, the turtle and the world after a relocation. -/
def relocation (turtle : Turtle) (memory : MemoryWorld) (world : WorldId) (pos : BlockPos) :
    Except Stop Bool × Turtle × MemoryWorld :=
  match hindrance turtle memory world pos with
  | some ending => (ending, turtle, memory)
  | none =>
    let (there, left, memory) := replacement turtle memory world pos
    (.ok there, { left with latch := false }, memory)

theorem outcome_relocate (scene : Scene MemoryWorld) (world : WorldId) (pos : BlockPos) :
    ∃ effects, (relocate world pos).outcome scene =
      ((relocation scene.turtle scene.world world pos).1,
        { scene with
          turtle := (relocation scene.turtle scene.world world pos).2.1
          world := (relocation scene.turtle scene.world world pos).2.2
          effects }) := by
  have read : (turtle : Action MemoryWorld Turtle).outcome scene = (.ok scene.turtle, scene) := rfl
  have answered : World.answer (.isLoaded world pos) scene.movers scene.world =
      (.ok (scene.world.isLoaded world pos), scene.world) := rfl
  obtain ⟨noted, asked⟩ := outcome_ask answered
  rw [relocate, outcome_bind_ok read]
  unfold relocation hindrance
  by_cases there : scene.turtle.world = world ∧ scene.turtle.pos = pos
  · simp only [there, and_self, ↓reduceIte]
    exact ⟨scene.effects, rfl⟩
  simp only [there, ↓reduceIte]
  rw [isLoaded, outcome_bind_ok asked]
  cases loaded : scene.world.isLoaded world pos with
  | false => exact ⟨noted, rfl⟩
  | true =>
    have answeredNext : World.answer (.isInBounds world pos) scene.movers scene.world =
        (.ok (scene.world.isInBounds world pos), scene.world) := rfl
    obtain ⟨notedNext, askedNext⟩ :
        ∃ effects, (ask (.isInBounds world pos)).outcome { scene with effects := noted } =
          (.ok (scene.world.isInBounds world pos), { scene with effects }) := outcome_ask answeredNext
    simp only [Bool.not_true, Bool.false_eq_true, ↓reduceIte]
    rw [isInBounds, outcome_bind_ok askedNext]
    cases bounded : scene.world.isInBounds world pos with
    | false => exact ⟨notedNext, rfl⟩
    | true =>
      simp only [Bool.not_true, Bool.false_eq_true, ↓reduceIte]
      cases moving : scene.turtle.animation.kind.isMovement with
      | true => exact ⟨notedNext, rfl⟩
      | false =>
        cases latch : scene.turtle.latch with
        | true => exact ⟨notedNext, by simp only [↓reduceIte]; rfl⟩
        | false =>
          simp only [Bool.false_eq_true, ↓reduceIte]
          obtain ⟨effects, replaced⟩ := outcome_replaceEntity
            { scene with turtle := { scene.turtle with latch := true }, effects := notedNext } world
            pos
          rw [outcome_latched, replaced, replacement_latch]
          exact ⟨effects, rfl⟩

/-- The ways in which a relocation can end. -/
inductive Relocates (turtle : Turtle) (memory : MemoryWorld) (world : WorldId) (pos : BlockPos) :
    Except Stop Bool → Turtle → MemoryWorld → Prop where
  | hindered {ending : Except Stop Bool}
      (hindered : hindrance turtle memory world pos = some ending) :
      Relocates turtle memory world pos ending turtle memory
  /-- The world makes no entity. -/
  | refused {cause : WorldError} {after : MemoryWorld}
      (clear : hindrance turtle memory world pos = none)
      (spawned : memory.spawn world pos turtle.snapshot = (.error cause, after)) :
      Relocates turtle memory world pos (.ok false) turtle after
  /-- The new entity is of the wrong kind, and is removed again. -/
  | discarded {entity : EntityRef} {between : MemoryWorld}
      (clear : hindrance turtle memory world pos = none)
      (spawned : memory.spawn world pos turtle.snapshot = (.ok entity, between))
      (wrong : isTurtleAt entity world pos = false) :
      Relocates turtle memory world pos (.ok false) turtle (between.remove entity.world entity.pos)
  | replaced {entity : EntityRef} {between : MemoryWorld}
      (clear : hindrance turtle memory world pos = none)
      (spawned : memory.spawn world pos turtle.snapshot = (.ok entity, between))
      (right : isTurtleAt entity world pos = true) :
      Relocates turtle memory world pos (.ok true) { turtle with entity }
        (between.remove turtle.world turtle.pos)

theorem hindrance_eq_none_iff {turtle : Turtle} {memory : MemoryWorld} {world : WorldId}
    {pos : BlockPos} :
    hindrance turtle memory world pos = none ↔
      ¬ (turtle.world = world ∧ turtle.pos = pos) ∧ memory.isLoaded world pos = true ∧
        memory.isInBounds world pos = true ∧ turtle.animation.kind.isMovement = false ∧
        turtle.latch = false := by
  unfold hindrance
  grind

theorem relocates_relocation (turtle : Turtle) (memory : MemoryWorld) (world : WorldId)
    (pos : BlockPos) :
    Relocates turtle memory world pos (relocation turtle memory world pos).1
      (relocation turtle memory world pos).2.1 (relocation turtle memory world pos).2.2 := by
  unfold relocation
  rcases hindered : hindrance turtle memory world pos with _ | ending
  · have released (left : Turtle) (free : left.latch = false) : { left with latch := false } = left := by
      rw [← free]
    obtain ⟨_, _, _, _, free⟩ := hindrance_eq_none_iff.mp hindered
    dsimp only
    unfold replacement
    rcases spawned : memory.spawn world pos turtle.snapshot with ⟨_ | entity, between⟩
    · rw [released turtle free]
      exact .refused hindered spawned
    · dsimp only
      by_cases right : isTurtleAt entity world pos = true
      · simp only [right, ↓reduceIte]
        rw [released { turtle with entity } free]
        exact .replaced hindered spawned right
      · simp only [right, Bool.false_eq_true, ↓reduceIte]
        rw [released turtle free]
        exact .discarded hindered spawned (Bool.eq_false_iff.mpr right)
  · exact .hindered hindered

theorem Relocates.of_eq {turtle left : Turtle} {memory after : MemoryWorld} {world : WorldId}
    {pos : BlockPos} {there : Except Stop Bool}
    (relocated : relocation turtle memory world pos = (there, left, after)) :
    Relocates turtle memory world pos there left after := by
  have relocates := relocates_relocation turtle memory world pos
  rwa [relocated] at relocates

/-- A relocation that succeeds has brought the turtle there. -/
theorem Relocates.arrives {turtle left : Turtle} {memory after : MemoryWorld}
    {world : WorldId} {pos : BlockPos}
    (relocates : Relocates turtle memory world pos (.ok true) left after) :
    left.world = world ∧ left.pos = pos := by
  cases relocates with
  | hindered hindered =>
    unfold hindrance at hindered
    split at hindered
    · assumption
    · grind
  | replaced clear spawned right =>
    exact (isTurtleAt_iff.mp right).2

theorem relocation_turtle {turtle left : Turtle} {memory after : MemoryWorld} {world : WorldId}
    {pos : BlockPos} {there : Except Stop Bool}
    (relocated : relocation turtle memory world pos = (there, left, after)) :
    ∃ entity, left = { turtle with entity } := by
  cases Relocates.of_eq relocated with
  | hindered hindered => exact ⟨_, rfl⟩
  | refused clear spawned => exact ⟨_, rfl⟩
  | discarded clear spawned wrong => exact ⟨_, rfl⟩
  | replaced clear spawned right => exact ⟨_, rfl⟩

end Action

end TurtleFleet
