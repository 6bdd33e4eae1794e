import TurtleFleet.Proofs.Entities
import TurtleFleet.Proofs.Relocation

/-! Lodging: a command keeps the turtle at work in an entity of its own, and leaves the entities of
all other turtles alone, however often the turtle moves and however the moves fail. -/

namespace TurtleFleet

/-- The record of the entity in which a turtle lives. -/
structure EntityRecord.Houses (record : EntityRecord) (turtle : Turtle) : Prop where
  kind : record.kind = .turtle
  serial : record.serial = turtle.entity.serial
  template : record.template.turtleId = turtle.id

/-- The turtle at work has its entity, and elsewhere are the entities of others. -/
structure Scene.Lodged (id : TurtleId) (home : WorldId) (attached : Bool)
    (others : WorldId → BlockPos → Option EntityRecord) (count : Nat)
    (scene : Scene MemoryWorld) : Prop where
  named : scene.turtle.id = id
  settled : scene.turtle.world = home ∧ scene.turtle.attached = attached
  lodges : ∃ record : EntityRecord, record.Houses scene.turtle ∧
    others home scene.turtle.pos = none ∧
    ∀ world pos, scene.world.entityAt? world pos =
      if world = home ∧ pos = scene.turtle.pos then some record else others world pos
  count : scene.world.entityCount = count
  distinct : scene.world.Distinct

namespace Scene.Lodged

variable {id : TurtleId} {home : WorldId} {attached : Bool}
  {others : WorldId → BlockPos → Option EntityRecord} {count : Nat} {scene : Scene MemoryWorld}

/-- Only the id and the entity of the turtle count, and the entities of the world. -/
theorem of_same (lodged : scene.Lodged id home attached others count) {after : Scene MemoryWorld}
    (turtle : after.turtle.id = scene.turtle.id ∧ after.turtle.entity = scene.turtle.entity ∧
      after.turtle.attached = scene.turtle.attached)
    (world : scene.world.SameEntities after.world) : after.Lodged id home attached others count := by
  obtain ⟨sameId, entity, joined⟩ := turtle
  obtain ⟨record, houses, free, records⟩ := lodged.lodges
  have pos : after.turtle.pos = scene.turtle.pos := congrArg EntityRef.pos entity
  refine { named := sameId.trans lodged.named, settled := ⟨?_, ?_⟩, lodges := ⟨record, ?_, ?_, ?_⟩,
           count := world.count.trans lodged.count, distinct := world.distinct lodged.distinct }
  · exact (congrArg EntityRef.world entity).trans lodged.settled.1
  · exact joined.trans lodged.settled.2
  · exact { kind := houses.kind, serial := by rw [entity]; exact houses.serial,
            template := by rw [sameId]; exact houses.template }
  · rw [pos]
    exact free
  · intro other place
    rw [world.records, pos]
    exact records other place

theorem ask {call : WorldCall} (modest : call.isModest home) :
    Action.Keeps (Scene.Lodged id home attached others count) (Action.ask call) := by
  intro scene lodged
  have asked {reply : call.Reply} {after : MemoryWorld}
      (answered : World.answer call scene.movers scene.world = (.ok reply, after))
      (same : scene.world.SameEntities after) :
      ((Action.ask call).outcome scene).2.Lodged id home attached others count := by
    obtain ⟨effects, ended⟩ := Action.outcome_ask answered
    rw [ended]
    exact lodged.of_same ⟨rfl, rfl, rfl⟩ same
  cases call with
  | isLoaded world pos => exact asked rfl (.of_dimensions rfl)
  | isInBounds world pos => exact asked rfl (.of_dimensions rfl)
  | block world pos => exact asked rfl (.of_dimensions rfl)
  | isProtected world pos owner => exact asked rfl (.of_dimensions rfl)
  | setBlock world pos block => exact asked rfl (.of_setBlock rfl)
  | spawn world pos template => exact modest.elim
  | remove world pos => exact modest.elim

/-- A new entity takes the place of the old one. -/
theorem moves (lodged : scene.Lodged id home attached others count) {pos : BlockPos} {serial : Nat}
    {memory : MemoryWorld}
    (gains : scene.world.Gains memory home pos
      { serial, kind := .turtle, template := scene.turtle.snapshot })
    {after : Scene MemoryWorld}
    (turtle : after.turtle = { scene.turtle with
      entity := { world := home, pos, kind := .turtle, serial }, latch := after.turtle.latch })
    (world : after.world = memory.remove scene.turtle.world scene.turtle.pos) :
    after.Lodged id home attached others count := by
  obtain ⟨record, houses, free, records⟩ := lodged.lodges
  have moved : scene.turtle.pos ≠ pos := by
    intro same
    have occupied := records home pos
    rw [gains.free, if_pos ⟨rfl, same.symm⟩] at occupied
    cases occupied
  have stays : memory.entityAt? home scene.turtle.pos = some record := by
    rw [gains.records, if_neg fun same => moved same.2, records, if_pos ⟨rfl, rfl⟩]
  have loses := MemoryWorld.loses_remove (gains.distinct lodged.distinct) stays
  rw [lodged.settled.1] at world
  rw [← world] at loses
  have place : after.turtle.pos = pos := by rw [turtle]; rfl
  refine { named := by rw [turtle]; exact lodged.named
           settled := ⟨by rw [turtle]; rfl, by rw [turtle]; exact lodged.settled.2⟩
           lodges := ⟨{ serial, kind := .turtle, template := scene.turtle.snapshot },
             ⟨rfl, by rw [turtle], by rw [turtle]; rfl⟩, ?_, ?_⟩
           count := ?_, distinct := loses.distinct }
  · rw [place, ← gains.free, records, if_neg fun same => moved same.2.symm]
  · intro other spot
    rw [loses.records, gains.records, records, place]
    -- the old place is none of the others', and the new one was nobody's
    by_cases old : other = home ∧ spot = scene.turtle.pos
    · obtain ⟨rfl, rfl⟩ := old
      simp [moved, free]
    · simp [old]
  · have more := gains.count
    have less := loses.count
    have counted := lodged.count
    omega

/-- A replacement that succeeds moves the entity, and one that fails leaves it where it is. -/
theorem replacement (lodged : scene.Lodged id home attached others count) (pos : BlockPos)
    {after : Scene MemoryWorld}
    (turtle : after.turtle = { (Action.replacement scene.turtle scene.world home pos).2.1 with
      latch := after.turtle.latch })
    (world : after.world = (Action.replacement scene.turtle scene.world home pos).2.2) :
    after.Lodged id home attached others count := by
  have unmoved (left : after.turtle = { scene.turtle with latch := after.turtle.latch })
      (same : scene.world.SameEntities after.world) : after.Lodged id home attached others count :=
    lodged.of_same ⟨by rw [left], by rw [left], by rw [left]⟩ same
  unfold Action.replacement at turtle world
  have spawns := MemoryWorld.spawns_spawn scene.world home pos scene.turtle.snapshot
  rcases spawned : scene.world.spawn home pos scene.turtle.snapshot with ⟨reply, memory⟩
  rw [spawned] at turtle world spawns
  cases spawns with
  | refused same =>
    refine unmoved turtle ?_
    rw [world]
    exact same
  | @made kind serial _ gains =>
    by_cases right : kind = .turtle
    · subst right
      simp only [Action.isTurtleAt, decide_true, Bool.and_self, ↓reduceIte] at turtle world
      exact lodged.moves gains turtle world
    · simp only [Action.isTurtleAt, right, decide_false, Bool.false_and, Bool.false_eq_true,
        ↓reduceIte] at turtle world
      refine unmoved turtle ?_
      rw [world]
      exact gains.undone lodged.distinct

theorem relocate (pos : BlockPos) :
    Action.Keeps (Scene.Lodged id home attached others count) (Action.relocate home pos) := by
  intro scene lodged
  obtain ⟨effects, ended⟩ := Action.outcome_relocate scene home pos
  rw [ended]
  unfold Action.relocation
  cases Action.hindrance scene.turtle scene.world home pos with
  | some ending => exact lodged.of_same ⟨rfl, rfl, rfl⟩ (.of_dimensions rfl)
  | none => exact lodged.replacement pos rfl rfl

theorem likeness : Likeness home attached
    (Diagonal (Scene.Lodged id home attached others count)) := by
  refine .diagonal (fun lodged => lodged.settled) ?_ ?_ ?_ (fun modest => ask modest) relocate
  · intro scene lodged facing selectedSlot inventory fuel
    exact lodged.of_same ⟨rfl, rfl, rfl⟩ (.of_dimensions rfl)
  · intro scene lodged kind animation begun
    exact lodged.of_same ⟨rfl, rfl, rfl⟩ (.of_dimensions rfl)
  · intro side upgrade scene lodged
    exact lodged.of_same ⟨rfl, rfl, rfl⟩ (.of_dimensions rfl)

end Scene.Lodged

end TurtleFleet
