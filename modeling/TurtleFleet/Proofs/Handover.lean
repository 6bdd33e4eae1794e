import TurtleFleet.Proofs.Memory
import TurtleFleet.Proofs.Standstill

/-! Handover: a turtle goes from one entity to the next. A relocation asks the world for a new entity
at the target and takes it over or has it removed again. Which calls that are, in which order and with
which arguments, is settled for every world that answers its calls, whatever it answers: with an entity
of another kind, in another dimension or at another place, and with a world that has changed in
between. -/

namespace TurtleFleet

/-- The calls that are meant to change the world, in order. -/
def editsOf (effects : List Effect) : List WorldCall :=
  effects.filterMap fun effect =>
    match effect with
    | .world call _ _ => if call.isEdit then some call else none
    | .equipment _ => none

@[simp]
theorem editsOf_append (effects others : List Effect) :
    editsOf (effects ++ others) = editsOf effects ++ editsOf others :=
  List.filterMap_append ..

@[simp]
theorem editsOf_world (call : WorldCall) (outcome : CallOutcome) (movers : List TurtleId) :
    editsOf [.world call outcome movers] = if call.isEdit then [call] else [] := by
  unfold editsOf
  cases edit : call.isEdit <;> simp [edit]

variable {W : Type} [World W]

/-- The world answers every call. -/
def World.Answers (W : Type) [World W] : Prop :=
  ∀ (call : WorldCall) (movers : List TurtleId) (world : W),
    ∃ reply after, World.answer call movers world = (.ok reply, after)

namespace Action

/-- How a relocation goes, by what the world answers to one call after the other: what it answers
itself, the turtle and the world that it leaves behind, and its edits of the world in order. While the
entity is replaced the turtle is one of those that are being moved. -/
inductive Handover (scene : Scene W) (world : WorldId) (pos : BlockPos) :
    Bool → Turtle → W → List WorldCall → Prop where
  | here (here : scene.turtle.world = world ∧ scene.turtle.pos = pos) :
      Handover scene world pos true scene.turtle scene.world []
  | unloaded {after : W} (away : ¬ (scene.turtle.world = world ∧ scene.turtle.pos = pos))
      (loaded : World.answer (.isLoaded world pos) scene.movers scene.world = (.ok false, after)) :
      Handover scene world pos false scene.turtle after []
  | outside {first after : W} (away : ¬ (scene.turtle.world = world ∧ scene.turtle.pos = pos))
      (loaded : World.answer (.isLoaded world pos) scene.movers scene.world = (.ok true, first))
      (bounded : World.answer (.isInBounds world pos) scene.movers first = (.ok false, after)) :
      Handover scene world pos false scene.turtle after []
  /-- The world makes no entity. -/
  | refused {first second after : W} {cause : WorldError}
      (away : ¬ (scene.turtle.world = world ∧ scene.turtle.pos = pos))
      (loaded : World.answer (.isLoaded world pos) scene.movers scene.world = (.ok true, first))
      (bounded : World.answer (.isInBounds world pos) scene.movers first = (.ok true, second))
      (spawned : World.answer (.spawn world pos scene.turtle.snapshot)
        (scene.otherMovers ++ [scene.turtle.id]) second = (.ok (.error cause), after)) :
      Handover scene world pos false scene.turtle after [.spawn world pos scene.turtle.snapshot]
  /-- The new entity is not a turtle at exactly the target. -/
  | discarded {first second third after : W} {entity : EntityRef}
      (away : ¬ (scene.turtle.world = world ∧ scene.turtle.pos = pos))
      (loaded : World.answer (.isLoaded world pos) scene.movers scene.world = (.ok true, first))
      (bounded : World.answer (.isInBounds world pos) scene.movers first = (.ok true, second))
      (spawned : World.answer (.spawn world pos scene.turtle.snapshot)
        (scene.otherMovers ++ [scene.turtle.id]) second = (.ok (.ok entity), third))
      (wrong : ¬ (entity.kind = .turtle ∧ entity.world = world ∧ entity.pos = pos))
      (removed : World.answer (.remove entity.world entity.pos)
        (scene.otherMovers ++ [scene.turtle.id]) third = (.ok (), after)) :
      Handover scene world pos false scene.turtle after
        [.spawn world pos scene.turtle.snapshot, .remove entity.world entity.pos]
  | replaced {first second third after : W} {entity : EntityRef}
      (away : ¬ (scene.turtle.world = world ∧ scene.turtle.pos = pos))
      (loaded : World.answer (.isLoaded world pos) scene.movers scene.world = (.ok true, first))
      (bounded : World.answer (.isInBounds world pos) scene.movers first = (.ok true, second))
      (spawned : World.answer (.spawn world pos scene.turtle.snapshot)
        (scene.otherMovers ++ [scene.turtle.id]) second = (.ok (.ok entity), third))
      (right : entity.kind = .turtle ∧ entity.world = world ∧ entity.pos = pos)
      (removed : World.answer (.remove scene.turtle.world scene.turtle.pos)
        (scene.otherMovers ++ [scene.turtle.id]) third = (.ok (), after)) :
      Handover scene world pos true { scene.turtle with entity } after
        [.spawn world pos scene.turtle.snapshot, .remove scene.turtle.world scene.turtle.pos]

/-- A relocation has gone by the protocol. -/
def HandsOver (scene : Scene W) (world : WorldId) (pos : BlockPos) (result : Except Stop Bool)
    (left : Scene W) : Prop :=
  ∃ there calls, result = .ok there ∧ editsOf left.effects = editsOf scene.effects ++ calls ∧
    Handover scene world pos there left.turtle left.world calls

variable {scene : Scene W} {world : WorldId} {pos : BlockPos}

theorem Handover.free {there : Bool} {turtle : Turtle} {after : W} {calls : List WorldCall}
    (handover : Handover scene world pos there turtle after calls) (free : scene.turtle.latch = false) :
    turtle.latch = false := by
  cases handover <;> exact free

/-- Only a turtle that has arrived is not what it was, and of it only the entity. -/
theorem Handover.turtle {there : Bool} {turtle : Turtle} {after : W} {calls : List WorldCall}
    (handover : Handover scene world pos there turtle after calls) :
    turtle = { scene.turtle with entity := turtle.entity } ∧
      (there = false → turtle = scene.turtle) := by
  cases handover with
  | here => exact ⟨rfl, fun _ => rfl⟩
  | unloaded => exact ⟨rfl, fun _ => rfl⟩
  | outside => exact ⟨rfl, fun _ => rfl⟩
  | refused => exact ⟨rfl, fun _ => rfl⟩
  | discarded => exact ⟨rfl, fun _ => rfl⟩
  | replaced => exact ⟨rfl, nofun⟩

theorem Meets.ask_of_eq {call : WorldCall} {reply : call.Reply} {after : W}
    {meant : Except Stop call.Reply → Scene W → Prop}
    (answered : World.answer call scene.movers scene.world = (.ok reply, after))
    (holds : ∀ effects,
      editsOf effects = editsOf scene.effects ++ (if call.isEdit then [call] else []) →
        meant (.ok reply) { scene with world := after, effects }) :
    (Action.ask call).Meets scene meant := by
  have ran : (Action.ask call).outcome scene = (.ok reply, { scene with
      world := after, effects := scene.effects ++ [.world call
        (if call.fulfilled reply then .fulfilled else .refused) scene.movers] }) := by
    simp only [outcome, Action.ask, answered]
  exact .of_eq ran (holds _ (by rw [editsOf_append, editsOf_world]))

theorem meets_replaceEntity_handover (answers : World.Answers W) (free : scene.turtle.latch = false)
    {first second : W} {noted : List Effect}
    (away : ¬ (scene.turtle.world = world ∧ scene.turtle.pos = pos))
    (loaded : World.answer (.isLoaded world pos) scene.movers scene.world = (.ok true, first))
    (bounded : World.answer (.isInBounds world pos) scene.movers first = (.ok true, second))
    (unedited : editsOf noted = editsOf scene.effects) :
    (latched (replaceEntity world pos)).Meets { scene with world := second, effects := noted }
      (HandsOver scene world pos) := by
  have released (entity : EntityRef) :
      { scene.turtle with entity, latch := false } = { scene.turtle with entity } := by rw [← free]
  refine .latched (.bind (.of_eq rfl ?_))
  obtain ⟨reply, third, spawned⟩ := answers (.spawn world pos scene.turtle.snapshot)
    (scene.otherMovers ++ [scene.turtle.id]) second
  refine .bind (.ask_of_eq spawned fun effects one => ?_)
  rw [unedited] at one
  rcases reply with cause | entity
  · refine .of_eq rfl ⟨false, _, rfl, one, ?_⟩
    simp only [released]
    exact .refused away loaded bounded spawned
  refine .ite (fun right => ?_) fun wrong => ?_
  · -- the turtle has its new entity before the old one is removed
    refine .bind (.of_eq rfl (.bind (.of_eq rfl ?_)))
    obtain ⟨_, after, removed⟩ := answers (.remove scene.turtle.world scene.turtle.pos)
      (scene.otherMovers ++ [scene.turtle.id]) third
    refine .bind (.ask_of_eq removed fun effects two => .of_eq rfl ⟨true, [.spawn world pos
      scene.turtle.snapshot, .remove scene.turtle.world scene.turtle.pos], rfl, ?_, ?_⟩)
    · rw [two, one]
      exact List.append_assoc ..
    · simp only [released]
      exact .replaced away loaded bounded spawned (isTurtleAt_iff.mp right) removed
  · obtain ⟨_, after, removed⟩ := answers (.remove entity.world entity.pos)
      (scene.otherMovers ++ [scene.turtle.id]) third
    refine .bind (.ask_of_eq removed fun effects two => .of_eq rfl ⟨false, [.spawn world pos
      scene.turtle.snapshot, .remove entity.world entity.pos], rfl, ?_, ?_⟩)
    · rw [two, one]
      exact List.append_assoc ..
    · simp only [released]
      exact .discarded away loaded bounded spawned (fun right => wrong (isTurtleAt_iff.mpr right))
        removed

theorem meets_relocate_handover (answers : World.Answers W)
    (still : scene.turtle.animation.kind.isMovement = false) (free : scene.turtle.latch = false) :
    (relocate world pos).Meets scene (HandsOver scene world pos) := by
  refine .bind (.of_eq rfl (.ite (fun here => ?_) fun away => ?_))
  · exact .of_eq rfl ⟨true, [], rfl, (List.append_nil _).symm, .here here⟩
  obtain ⟨there, first, loaded⟩ := answers (.isLoaded world pos) scene.movers scene.world
  refine .bind (.ask_of_eq loaded fun noted unedited => .ite (fun yes => ?_) fun no => ?_)
  · subst yes
    obtain ⟨inside, second, bounded⟩ := answers (.isInBounds world pos) scene.movers first
    refine .bind (.ask_of_eq bounded fun noted same => .ite (fun yes => ?_) fun no => ?_)
    · subst yes
      refine .ite (fun moving => absurd (still.symm.trans moving) nofun) fun _ => ?_
      refine .ite (fun engaged => absurd (free.symm.trans engaged) nofun) fun _ => ?_
      refine meets_replaceEntity_handover answers free away loaded bounded ?_
      rw [same, unedited]
      simp [WorldCall.isEdit]
    · rw [Bool.not_eq_true] at no
      subst no
      refine .of_eq rfl ⟨false, [], rfl, ?_, .outside away loaded bounded⟩
      rw [same, unedited]
      simp [WorldCall.isEdit]
  · rw [Bool.not_eq_true] at no
    subst no
    exact .of_eq rfl ⟨false, [], rfl, unedited, .unloaded away loaded⟩

/-- Relocation goes by its protocol in every world that answers its calls, whatever the answers are,
for every turtle that is neither animated by a movement nor being relocated, and every target: nothing
is edited if the turtle is there already or the target is not loaded or out of bounds; or else one
entity is asked for, and then none, that entity or the old one is removed. Only a turtle that has
arrived is changed, and of it only the entity, and afterwards it is free to be relocated again. -/
theorem relocation_goes_by_protocol (answers : World.Answers W) (scene : Scene W)
    (still : scene.turtle.animation.kind.isMovement = false) (free : scene.turtle.latch = false)
    (world : WorldId) (pos : BlockPos) :
    ∃ there left calls, (relocate world pos).outcome scene = (.ok there, left) ∧
      Handover scene world pos there left.turtle left.world calls ∧
      editsOf left.effects = editsOf scene.effects ++ calls ∧
      (there = false → left.turtle = scene.turtle) ∧
      left.turtle = { scene.turtle with entity := left.turtle.entity } ∧
      left.turtle.latch = false := by
  obtain ⟨there, calls, ended, edits, handover⟩ :=
    @meets_relocate_handover _ _ scene world pos answers still free
  exact ⟨there, _, calls, Prod.ext ended rfl, handover, edits, handover.turtle.2, handover.turtle.1,
    handover.free free⟩

/-- A turtle that is to go to another place, in a world that makes something else of the next entity. -/
def mislaid : Scene MemoryWorld :=
  { turtle := Turtle.unplaced Sample.scout Sample.fleet.settings
    world := Sample.stage.world.spawnNextAs (.other "item") }

theorem relocation_goes_by_protocol_mislaid :
    (mislaid.turtle.animation.kind.isMovement = false ∧ mislaid.turtle.latch = false) ∧
      ∃ left, (relocate "overworld" ⟨0, 64, -1⟩).outcome mislaid = (.ok false, left) ∧
        left.turtle = mislaid.turtle ∧
        editsOf left.effects = [.spawn "overworld" ⟨0, 64, -1⟩ mislaid.turtle.snapshot,
          .remove "overworld" ⟨0, 64, -1⟩] := by
  refine ⟨⟨rfl, rfl⟩, ?_⟩
  obtain ⟨there, left, calls, ended, _, edits, unmoved, _⟩ := relocation_goes_by_protocol
    MemoryWorld.answers mislaid rfl rfl "overworld" ⟨0, 64, -1⟩
  have failed : ((relocate "overworld" ⟨0, 64, -1⟩).outcome mislaid).1 = .ok false := by rfl
  have edited : editsOf ((relocate "overworld" ⟨0, 64, -1⟩).outcome mislaid).2.effects =
      [.spawn "overworld" ⟨0, 64, -1⟩ mislaid.turtle.snapshot,
        .remove "overworld" ⟨0, 64, -1⟩] := by rfl
  rw [ended] at failed edited
  cases failed
  exact ⟨left, ended, unmoved rfl, edited⟩

end Action

end TurtleFleet
