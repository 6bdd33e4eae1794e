import TurtleFleet.Proofs.Responses

/-! The stages that a fleet can come to, whatever is done with it and whether or not it is done to the
end. A deed that breaks off leaves every registered turtle as it was, or has taken it off the fleet
already, so the books that the deeds keep which do not break off are in order at all these stages. -/

namespace TurtleFleet

variable {C M W : Type}

/-- A fleet has no turtles but those of another one, as they are there. -/
def Fleet.Thins (after before : Fleet C M) : Prop :=
  ∀ id member, after.members.get? id = some member → before.members.get? id = some member

theorem Fleet.Thins.refl (fleet : Fleet C M) : fleet.Thins fleet := fun _ _ found => found

theorem Fleet.thins_release (fleet : Fleet C M) (id : TurtleId) (member : Member C) :
    (fleet.release id member).Thins fleet := by
  intro other now found
  rw [release, Keyed.get?_erase] at found
  split at found
  · cases found
  · exact found

namespace Operation

/-- When the operation breaks off with one fleet at its start, it leaves another one. -/
def BreaksAt {α : Type} (before after : Fleet C M) (operation : Operation C M W α) : Prop :=
  ∀ stage : Stage C M W, stage.fleet = before →
    ∀ fault left, operation stage = .error (.broken fault) left → left.fleet = after

namespace BreaksAt

variable {α : Type} {before after : Fleet C M}

theorem of_unbroken {operation : Operation C M W α} (unbroken : Unbroken operation) :
    BreaksAt before after operation := fun stage _ fault left broken =>
  (unbroken stage ⟨fault, left, broken⟩).elim

theorem fleet {next : Fleet C M → Operation C M W α} (later : BreaksAt before after (next before)) :
    BreaksAt before after (Operation.fleet >>= next) := by
  intro stage same fault left broken
  rw [bind_of_ok (rfl : Operation.fleet stage = .ok stage.fleet stage), same] at broken
  exact later stage same fault left broken

theorem setFleet {between : Fleet C M} {next : Unit → Operation C M W α}
    (later : BreaksAt between after (next ())) :
    BreaksAt before after (Operation.setFleet between >>= next) := by
  intro stage _ fault left broken
  rw [bind_of_ok (rfl : Operation.setFleet between stage = .ok () { stage with fleet := between })]
    at broken
  exact later _ rfl fault left broken

theorem member {id : TurtleId} {next : Member C → Operation C M W α}
    (later : ∀ member, before.members.get? id = some member → BreaksAt before after (next member)) :
    BreaksAt before after (Operation.member id >>= next) := by
  intro stage same fault left broken
  rcases found : stage.fleet.members.get? id with _ | member
  · rw [bind_of_error (member_of_missing found)] at broken
    cases broken
  · rw [bind_of_ok (member_of_get? found)] at broken
    exact later member (same ▸ found) stage same fault left broken

/-- A call to the world leaves the fleet alone, and may break off. -/
theorem ask [World W] {id : TurtleId} {call : WorldCall} {next : call.Reply → Operation C M W α}
    (later : ∀ reply, BreaksAt before before (next reply)) :
    BreaksAt before before (Operation.ask id call >>= next) := by
  intro stage same fault left broken
  rcases answered : World.answer call (stage.fleet.moversExcept id) stage.world with
    ⟨cause | reply, world⟩
  · have asked : Operation.ask id call stage = .error (.broken cause) { stage with
        world, signals := stage.signals ++
          [.effect (.world call .broken (stage.fleet.moversExcept id))] } := by
      simp only [Operation.ask, answered]
    rw [bind_of_error asked] at broken
    cases broken
    exact same
  · obtain ⟨news, _, _, asked⟩ := ask_of_answers answered
    rw [bind_of_ok asked] at broken
    exact later reply { stage with world, signals := stage.signals ++ news } same fault left broken

theorem ignore {operation : Operation C M W α} (breaks : BreaksAt before after operation) :
    BreaksAt before after (do let _ ← operation) := by
  intro stage same fault left broken
  rcases ended : operation stage with ⟨value, between⟩ | ⟨failure, between⟩
  · rw [bind_of_ok ended] at broken
    cases broken
  · rw [bind_of_error ended] at broken
    cases broken
    exact breaks stage same fault left ended

variable [World W]

theorem register (fleet : Fleet C M) (spec : TurtleSpec) :
    BreaksAt fleet fleet (Operation.register spec : Operation C M W Submitter) := by
  apply BreaksAt.fleet
  split
  · exact of_unbroken (.refuse_bind _ _)
  · refine .fleet (.ask fun reply => ?_)
    cases reply with
    | error cause => exact of_unbroken (.refuse _)
    | ok entity =>
      dsimp only
      split
      · exact .ask fun _ => of_unbroken (.refuse_bind _ _)
      · exact of_unbroken (.enroll _)

/-- By the time the world is called, a turtle is off the fleet. -/
theorem remove {fleet : Fleet C M} {id : TurtleId} {member : Member C}
    (found : fleet.members.get? id = some member) :
    BreaksAt fleet (fleet.release id member)
      (Operation.remove id : Operation C M W TurtleSnapshot) := by
  refine .member fun known same => ?_
  cases found.symm.trans same
  exact .fleet (.setFleet (.ask fun _ => of_unbroken (.farewell _ _ _ _ _)))

end BreaksAt

end Operation

namespace Stage

variable [Command C] [World W] [WorkMonitor M]

/-- What a deed that breaks off leaves of the fleet. -/
theorem thins_of_breaks {stage : Stage C M W} {deed : Deed C W} (breaks : stage.Breaks deed.perform) :
    (stage.next deed).fleet.Thins stage.fleet := by
  obtain ⟨fault, left, broken⟩ := breaks
  have after : stage.next deed = left := by
    simp only [next, Stage.after, broken]
  rw [after]
  cases deed with
  | register spec =>
    rw [(Operation.BreaksAt.register stage.fleet spec).ignore stage rfl fault left broken]
    exact .refl _
  | remove id =>
    rcases found : stage.fleet.members.get? id with _ | member
    · have refused : Operation.remove id stage = .error (.refused (.unknownTurtle id)) stage :=
        bind_of_error (Operation.member_of_missing found)
      simp only [Deed.perform, bind_of_error refused] at broken
      cases broken
    · rw [(Operation.BreaksAt.remove found).ignore stage rfl fault left broken]
      exact stage.fleet.thins_release id member
  | _ =>
    exact (Operation.Unbroken.perform rfl (fun _ same => by cases same) stage
      ⟨fault, left, broken⟩).elim

/-- A stage that a fleet can come to: deeds are done with a new fleet, which may break off. -/
inductive Reachable : Stage C M W → Prop where
  | opened {stage : Stage C M W} (opening : stage.Opening) : Reachable stage
  | next {stage : Stage C M W} (reachable : Reachable stage) (deed : Deed C W) :
      Reachable (stage.next deed)

namespace Reachable

variable {stage last : Stage C M W}

theorem of_leads {course : List (Deed C W)} (reachable : stage.Reachable)
    (led : stage.Leads course last) : last.Reachable := by
  induction led with
  | rest stage => exact reachable
  | step whole led ih => exact ih (reachable.next _)

/-- Every registered turtle of a fleet has its books in order. -/
theorem ledger (reachable : stage.Reachable) {id : TurtleId} {member : Member C}
    (found : stage.fleet.members.get? id = some member) :
    ∃ ran waiting published, Ledger member ran waiting published := by
  induction reachable generalizing id member with
  | opened opening =>
    rw [opening.members] at found
    cases found
  | @next stage reachable deed ih =>
    by_cases breaks : stage.Breaks deed.perform
    · exact ih (thins_of_breaks breaks id member found)
    · have audible (member : Member C) (known : stage.fleet.members.get? id = some member) :
          member.Audible := by
        obtain ⟨ran, waiting, published, ledger⟩ := ih known
        exact ledger.audible
      obtain ⟨answers, fate, _⟩ := stage.fate_next deed breaks id audible
      rw [found] at fate
      generalize stage.arriving id deed = commands at fate
      generalize stage.started id deed = executed at fate
      generalize before : stage.fleet.members.get? id = known at fate
      cases fate with
      | enrolled fresh counted =>
        have still : Animation.playing _ = false := congrArg Animation.playing fresh
        exact ⟨[], [], [], .opened _ still⟩
      | tookIn untimed earlier =>
        obtain ⟨ran, waiting, published, ledger⟩ := ih before
        exact ⟨ran, _, published, ledger.takeIn commands⟩
      | refitted untimed earlier same =>
        obtain ⟨ran, waiting, published, ledger⟩ := ih before
        exact ⟨ran, waiting, published, ledger.refit same⟩
      | @ticked _ _ early late _ _ _ _ _ timed serves =>
        obtain ⟨ran, waiting, published, ledger⟩ := ih before
        obtain ⟨ranNow, waitingNow, _, served⟩ := (ledger.takeIn early).serves serves
        exact ⟨ranNow, _, _, served.takeIn late⟩

end Reachable

end Stage

/-- Whatever is done with a small fleet, under whichever budget. -/
theorem Sample.reachable (monitor : WorkBudget) (course : List (Deed TurtleCommand MemoryWorld)) :
    (Stage.run { stage with fleet := { fleet with monitor } } course).Reachable := by
  have made : Fleet.new { animationDuration := 2 } monitor = .ok { fleet with monitor } := rfl
  exact (Stage.Reachable.opened (.made made .standard _)).of_leads (Stage.leads_run _ _)

end TurtleFleet
