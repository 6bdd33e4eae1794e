import TurtleFleet.Proofs.Notices
import TurtleFleet.Proofs.Relocation

/-! Displacement, which is all that a relocation does to a turtle in any world: it changes nothing of
the turtle but its entity, and tells nothing of the equipment. -/

namespace TurtleFleet

variable {W : Type}

/-- A scene that comes from another one by what a relocation does at most. The turtle is still in the
dimension that is meant if it was there before. -/
structure Scene.Displaced (home : WorldId) (before after : Scene W) : Prop where
  turtle : ∃ entity latch, after.turtle = { before.turtle with entity, latch }
  home : before.turtle.world = home → after.turtle.world = home
  notices : noticesOf after.effects = noticesOf before.effects

namespace Scene.Displaced

variable {home : WorldId} {before after : Scene W}

theorem refl (home : WorldId) (scene : Scene W) : scene.Displaced home scene :=
  ⟨⟨_, _, rfl⟩, id, rfl⟩

theorem latched (displaced : before.Displaced home after) (latch : Bool) :
    before.Displaced home { after with turtle := { after.turtle with latch } } := by
  obtain ⟨entity, _, same⟩ := displaced.turtle
  exact ⟨⟨entity, latch, by rw [same]⟩, displaced.home, displaced.notices⟩

variable [World W]

theorem ask (call : WorldCall) : Action.Keeps (before.Displaced home) (Action.ask call) := by
  intro scene displaced
  rcases answered : World.answer call scene.movers scene.world with ⟨fault | reply, world⟩ <;>
  · simp only [Action.outcome, Action.ask, answered]
    exact ⟨displaced.turtle, displaced.home, by simp [displaced.notices]⟩

theorem replaceEntity (pos : BlockPos) :
    Action.Keeps (before.Displaced home) (Action.replaceEntity home pos) := by
  have read : Action.Keeps (before.Displaced home) Action.turtle := fun _ displaced => displaced
  suffices steady : Action.Steady (Diagonal (before.Displaced home))
      (Action.replaceEntity home pos) from steady.keeps
  refine .bind read.steady fun turtle => .bind (ask _).steady fun reply => ?_
  cases reply with
  | error cause => exact .pure _
  | ok entity =>
    dsimp only
    by_cases right : Action.isTurtleAt entity home pos = true
    · rw [if_pos right]
      obtain ⟨_, there, _⟩ := Action.isTurtleAt_iff.mp right
      have moved : Action.Keeps (before.Displaced home)
          (Action.modifyTurtle ({ · with entity })) := by
        intro scene displaced
        obtain ⟨_, latch, same⟩ := displaced.turtle
        refine ⟨⟨entity, latch, ?_⟩, fun _ => there, displaced.notices⟩
        show { scene.turtle with entity } = _
        rw [same]
      exact .bind read.steady fun _ => .bind moved.steady fun _ => .bind (ask _).steady fun _ => .pure _
    · rw [if_neg right]
      exact .bind (ask _).steady fun _ => .pure _

theorem relocate (pos : BlockPos) :
    Action.Keeps (before.Displaced home) (Action.relocate home pos) := by
  have read : Action.Keeps (before.Displaced home) Action.turtle := fun _ displaced => displaced
  have engaged : Action.Keeps (before.Displaced home)
      (Action.latched (Action.replaceEntity home pos)) := by
    intro scene displaced
    have replaced := replaceEntity pos _ (displaced.latched true)
    rw [Action.outcome_latched]
    exact replaced.latched false
  suffices steady : Action.Steady (Diagonal (before.Displaced home))
      (Action.relocate home pos) from steady.keeps
  refine .bind read.steady fun turtle => .ite (.pure _) ?_
  refine .bind (ask _).steady fun loaded => .ite ?_ (.pure _)
  refine .bind (ask _).steady fun bounded => .ite ?_ (.pure _)
  exact .ite (.throw_bind _ _) (.ite (.pure _) engaged.steady)

end Scene.Displaced

end TurtleFleet
