import TurtleFleet.Proofs.Fate
import TurtleFleet.Proofs.Standstill

/-! Traits: what holds of every registered turtle, in any world, because it holds of a turtle that is
new and nothing takes it away, whatever the world answers and wherever one of its calls breaks off. -/

namespace TurtleFleet

variable {C M W : Type} [Command C] [World W]

/-- A property of the turtle that is registered under an id. New turtles have it, and neither a change
of their equipment nor a command takes it from them. -/
structure Turtle.Trait (C W : Type) [Command C] [World W] (holds : TurtleId → Turtle → Prop) :
    Prop where
  fresh : ∀ (spec : TurtleSpec) (settings : Settings) (entity : EntityRef),
    holds spec.turtleId { Turtle.unplaced spec settings with entity }
  refit : ∀ {id : TurtleId} {turtle : Turtle}, holds id turtle →
    ∀ (equipment : Equipment) (animation : Animation) (attached : Bool),
      holds id { turtle with equipment, animation, attached }
  execute : ∀ {id : TurtleId} {turtle : Turtle}, holds id turtle →
    ∀ (command : C) (context : Context) (world : W) (otherMovers : List TurtleId),
      holds id ((Command.execute command context).outcome { turtle, world, otherMovers }).2.turtle

variable [WorkMonitor M]

theorem Round.turtle_visit {round : Round C M W} {id : TurtleId} {member served : Member C}
    {nanos : Nat}
    (found : round.stage.fleet.members.get? id = some member)
    (foundAfter : (round.visit id nanos).stage.fleet.members.get? id = some served) :
    served.turtle = (member.woken id round.stage.fleet.time).turtle ∨
      ∃ command : C, served.turtle =
        ((Command.execute command round.stage.fleet.context).outcome
          (round.scene id (member.woken id round.stage.fleet.time))).2.turtle := by
  have rouses := rouses_visit found nanos
  generalize round.visit id nanos = left at rouses foundAfter
  cases rouses with
  | waits monitor deferred =>
    have known : some (member.woken id round.stage.fleet.time) = some served :=
      (Keyed.get?_insert_self ..).symm.trans foundAfter
    exact .inl (by rw [← Option.some.inj known])
  | @works entry rest monitor still waiting =>
    refine .inr ⟨entry.command, ?_⟩
    simp only [execute, Fleet.setMember, Keyed.get?_insert_self, moversExcept_wake] at foundAfter
    rw [← Option.some.inj foundAfter]
    rfl

namespace Fleet

variable {holds : TurtleId → Turtle → Prop} {fleet : Fleet C M}

omit [Command C] [WorkMonitor M]

/-- All registered turtles have a property. -/
def All (holds : TurtleId → Turtle → Prop) (fleet : Fleet C M) : Prop :=
  ∀ id member, fleet.members.get? id = some member → holds id member.turtle

theorem All.takeIn (all : fleet.All holds) (arrivals : List (Submitter × C)) :
    (fleet.takeIn arrivals).All holds := by
  intro id member found
  obtain ⟨before, known, same⟩ :=
    Option.map_eq_some_iff.mp ((fleet.get?_takeIn arrivals id).symm.trans found)
  rw [← same, Member.takeIn_turtle]
  exact all id before known

theorem All.setMember (all : fleet.All holds) {id : TurtleId} {member : Member C}
    (own : holds id member.turtle) : (fleet.setMember id member).All holds := by
  intro other now found
  by_cases same : other = id
  · subst same
    rw [Fleet.setMember, Keyed.get?_insert_self] at found
    rw [← Option.some.inj found]
    exact own
  · rw [Fleet.setMember, Keyed.get?_insert_of_ne _ _ same] at found
    exact all other now found

theorem All.release (all : fleet.All holds) (id : TurtleId) (member : Member C) :
    (fleet.release id member).All holds := by
  intro other now found
  rw [Fleet.release, Keyed.get?_erase] at found
  split at found
  · cases found
  · exact all other now found

end Fleet

namespace Turtle.Trait

variable {holds : TurtleId → Turtle → Prop}

theorem visit (trait : Trait C W holds) {round : Round C M W} (all : round.stage.fleet.All holds)
    (id : TurtleId) (nanos : Nat) : (round.visit id nanos).stage.fleet.All holds := by
  intro other served foundAfter
  by_cases own : other = id
  · subst own
    rcases found : round.stage.fleet.members.get? other with _ | member
    · have left : round.visit other nanos = round := by simp only [Round.visit, found]
      rw [left, found] at foundAfter
      cases foundAfter
    · have woken : holds other (member.woken other round.stage.fleet.time).turtle := by
        rw [Member.woken_eq]
        exact trait.refit (all other member found) _ _ _
      rcases Round.turtle_visit found foundAfter with same | ⟨command, same⟩
      · rw [same]
        exact woken
      · rw [same]
        exact trait.execute woken command _ _ _
  · rw [(round.visit_of_ne own nanos).1] at foundAfter
    exact all other served foundAfter

theorem lastsTicks (trait : Trait C W holds) :
    Stage.LastsTicks fun stage : Stage C M W => stage.fleet.All holds where
  paced _ _ _ all := all
  takeIn arrivals all := all.takeIn arrivals
  visit id nanos all := trait.visit all id nanos

theorem next (trait : Trait C W holds) {stage : Stage C M W} (all : stage.fleet.All holds)
    (deed : Deed C W) (whole : ¬ stage.Breaks deed.perform) : (stage.next deed).fleet.All holds := by
  have does := stage.does_next deed whole
  generalize left : stage.next deed = after at does ⊢
  cases does with
  | declined silent untimed lasting => exact all
  | unremoved missing => exact all
  | submitted submitter command => exact all.takeIn [(submitter, command)]
  | submittedFor command found => exact all.takeIn [(_, command)]
  | ticked arrivals nanos => exact left ▸ trait.lastsTicks.next all arrivals nanos
  | unspawned absent spawned quiet => exact all
  | discarded absent spawned foreign removed quiet => exact all
  | enrolled absent spawned kind quiet => exact all.setMember (trait.fresh _ _ _)
  | upgraded side upgrade found => exact all.setMember (trait.refit (all _ _ found) _ _ _)
  | attached found apart => exact all.setMember (trait.refit (all _ _ found) _ _ _)
  | detached found joined => exact all.setMember (trait.refit (all _ _ found) _ _ _)
  | removed found answered quiet => exact all.release _ _
  | reshaped change => exact all

theorem of_leads (trait : Trait C W holds) {stage last : Stage C M W} {course : List (Deed C W)}
    (all : stage.fleet.All holds) (led : stage.Leads course last) : last.fleet.All holds := by
  induction led with
  | rest stage => exact all
  | step whole led ih => exact ih (trait.next all _ whole)

/-- A trait is had by every turtle of every fleet. -/
theorem of_opening (trait : Trait C W holds) {start last : Stage C M W} {course : List (Deed C W)}
    (opening : start.Opening) (led : start.Leads course last) : last.fleet.All holds := by
  refine trait.of_leads (fun id member found => ?_) led
  rw [opening.members] at found
  cases found

end Turtle.Trait

end TurtleFleet
