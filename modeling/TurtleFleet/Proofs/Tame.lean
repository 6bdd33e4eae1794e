import TurtleFleet.Proofs.Displacement

/-! Tame commands. They leave the updates of the upgrades to the fleet, and of the animation they begin
at most the next one, so that animations last as long as before. All standard commands are tame, in
whatever world they run. -/

namespace TurtleFleet

variable {C W : Type}

namespace Animation

/-- What a command may do to the animation: leave it as it is, or begin one. -/
def BeginsOnce (before after : Animation) : Prop :=
  after = before ∨ ∃ kind, before.begin kind = .ok after

/-- Nothing more begins where an animation was begun, unless it was begun as nothing. -/
theorem BeginsOnce.again {before between after : Animation} {kind : AnimationKind}
    (once : before.BeginsOnce between) (begun : between.begin kind = .ok after) :
    before.BeginsOnce after := by
  obtain same | ⟨first, began⟩ := once
  · rw [same] at begun
    exact .inr ⟨kind, begun⟩
  cases still : before.playing with
  | true => simp [begin, still] at began
  | false =>
    by_cases nothing : first = .none
    · have reset : between = before.reset := by
        simpa [begin, still, nothing] using began.symm
      have alike : before.reset.begin kind = before.begin kind := by
        rw [begin, begin, still]
        rfl
      exact .inr ⟨kind, by rw [← alike, ← reset, begun]⟩
    · rw [begin_of_still still nothing] at began
      cases began
      simp [begin, playing, nothing] at begun

theorem BeginsOnce.duration {before after : Animation} (once : before.BeginsOnce after) :
    after.duration = before.duration := by
  obtain same | ⟨kind, begun⟩ := once
  · rw [same]
  · simp only [begin] at begun
    split at begun
    · cases begun
    · split at begun
      · cases begun
        rfl
      · cases begun
        rfl

end Animation

/-- An installed upgrade gets its update. -/
def EquipmentNotice.isUpdate : EquipmentNotice → Bool
  | updated .. => true
  | peripheral .. => false

theorem Equipment.filter_set (equipment : Equipment) (side : Side) (upgrade : Option Upgrade)
    (turtle : TurtleId) (attached : Bool) :
    (equipment.set side upgrade turtle attached).notices.filter (·.isUpdate) = [] := by
  unfold set
  split
  · rfl
  · cases attached <;> rfl

/-- What a tame command leaves of its turtle. It has begun one animation at most, and it has given no
update to an upgrade. -/
structure Scene.Tame (start : Turtle) (scene : Scene W) : Prop where
  begins : start.animation.BeginsOnce scene.turtle.animation
  untold : (noticesOf scene.effects).filter (·.isUpdate) = []

/-- Commands that leave the updates of the upgrades to the fleet, and the animations that play as
well. -/
structure Command.Tame (C W : Type) [Command C] [World W] : Prop where
  execute : ∀ (command : C) (context : Context) (turtle : Turtle) (world : W)
    (otherMovers : List TurtleId), Scene.Tame turtle
      ((Command.execute command context).outcome { turtle, world, otherMovers }).2

namespace Scene.Tame

variable {home : WorldId} {attached : Bool} {start : Turtle}

theorem displaced {scene after : Scene W} (tame : scene.Tame start)
    (displaced : scene.Displaced home after) : after.Tame start := by
  obtain ⟨entity, latch, same⟩ := displaced.turtle
  refine { begins := ?_, untold := ?_ }
  · rw [same]
    exact tame.begins
  · rw [displaced.notices]
    exact tame.untold

/-- A tame scene of a turtle that is where it was registered. -/
structure Settled (home : WorldId) (attached : Bool) (start : Turtle) (scene : Scene W) : Prop where
  settled : scene.turtle.world = home ∧ scene.turtle.attached = attached
  tame : scene.Tame start

theorem Settled.displaced {scene after : Scene W} (kept : Settled home attached start scene)
    (displaced : scene.Displaced home after) : Settled home attached start after := by
  obtain ⟨entity, latch, same⟩ := displaced.turtle
  refine ⟨⟨displaced.home kept.settled.1, ?_⟩, kept.tame.displaced displaced⟩
  rw [same]
  exact kept.settled.2

theorem Settled.setUpgrade (side : Side) (upgrade : Option Upgrade) :
    Action.Keeps (Settled (W := W) home attached start) (Action.setUpgrade side upgrade attached) := by
  intro scene kept
  refine ⟨kept.settled, { kept.tame with untold := ?_ }⟩
  have effects : ((Action.setUpgrade side upgrade attached).outcome scene).2.effects =
      scene.effects ++
        (scene.turtle.equipment.set side upgrade scene.turtle.id attached).notices.map .equipment :=
    rfl
  rw [effects, noticesOf_append, noticesOf_equipment, List.filter_append, kept.tame.untold,
    Equipment.filter_set]
  rfl

variable [World W]

theorem Settled.likeness :
    Likeness home attached (Diagonal (Settled (W := W) home attached start)) := by
  refine .diagonal (fun kept => kept.settled) ?_ ?_ setUpgrade ?_ ?_
  · intro scene kept facing selectedSlot inventory fuel
    exact ⟨kept.settled, { kept.tame with }⟩
  · intro scene kept kind animation begun
    exact ⟨kept.settled, { kept.tame with begins := kept.tame.begins.again begun }⟩
  · intro call modest scene kept
    exact kept.displaced (Displaced.ask call scene (.refl home scene))
  · intro pos scene kept
    exact kept.displaced (Displaced.relocate pos scene (.refl home scene))

end Scene.Tame

/-- The standard commands are tame. -/
theorem TurtleCommand.tame [World W] : Command.Tame TurtleCommand W where
  execute command context turtle world otherMovers := by
    have kept : Scene.Tame.Settled turtle.world turtle.attached turtle
        ({ turtle, world, otherMovers } : Scene W) := ⟨⟨rfl, rfl⟩, .inl rfl, rfl⟩
    exact ((command.steady Scene.Tame.Settled.likeness context).keeps _ kept).tame

end TurtleFleet
