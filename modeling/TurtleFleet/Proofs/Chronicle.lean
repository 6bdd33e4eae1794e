import TurtleFleet.Proofs.Career
import TurtleFleet.Proofs.Schedule

/-! The chronicle of a registration: which response answers which command. The responses that go out
are those of the commands that were carried out, in their order, each with the outcome that its command
had, and in the end a failure for each command that was never carried out. -/

namespace TurtleFleet

variable {C M W : Type}

/-- The response to a command that was carried out. -/
def Task.response (task : Task C) : Response := Response.ofResult task.1.id task.2

/-- The response to a command that the removal of its turtle prevented. -/
def QueueEntry.prevented (entry : QueueEntry C) : Response :=
  Response.failure entry.id turtleRemoved

theorem Task.response_id (task : Task C) : task.response.id = task.1.id := by
  obtain ⟨entry, result⟩ := task
  cases result <;> rfl

variable [Command C] [World W] [WorkMonitor M]

/-! ### One visit -/

namespace Round

/-- On a visit the oldest command is carried out or none, and its response goes out or is held. -/
theorem tasks_of_visit {round : Round C M W} {id : TurtleId} {member : Member C}
    {ran waiting : List C} {published : List Response}
    (found : round.stage.fleet.members.get? id = some member)
    (ledger : Ledger member ran waiting published) (nanos : Nat) :
    ∃ answers served,
      (round.visit id nanos).stage.fleet.members.get? id = some served ∧
      heard id (round.visit id nanos).stage.signals = heard id round.stage.signals ++ answers ∧
      (∃ ranNow waitingNow, ranNow ++ waitingNow = ran ++ waiting ∧
        Ledger served ranNow waitingNow (published ++ answers)) ∧
      (round.task? id).toList.map (·.1) ++ served.queue.entries = member.queue.entries ∧
      answers ++ served.pending.toList =
        member.pending.toList ++ (round.task? id).toList.map (·.response) := by
  obtain ⟨answers, started, served, serves, foundAfter, heardAfter, startedAfter⟩ :=
    Round.visit_self found ledger.audible nanos
  rw [round.startedFor_visit, List.append_cancel_left_eq] at startedAfter
  refine ⟨answers, served, foundAfter, heardAfter, ledger.serves serves, ?_⟩
  have held := (ledger.woken id round.stage.fleet.context.time).animated
  have delivered := member.delivery_append id round.stage.fleet.context.time
  generalize (round.visit id nanos).stage.world = world at serves
  cases serves with
  | waits =>
    have nothing : round.task? id = none := by
      cases task : round.task? id with
      | none => rfl
      | some other =>
        rw [task] at startedAfter
        cases startedAfter
    rw [nothing]
    refine ⟨congrArg CommandQueue.entries (member.woken_queue id _), ?_⟩
    rw [Option.toList_none, List.map_nil, List.append_nil]
    exact delivered
  | @starts entry rest result left still waiting ran =>
    have task : round.task? id = some (entry, result) := by
      have ended : round.ending id (member.woken id round.stage.fleet.time) entry = result :=
        congrArg Prod.fst ran
      cases carried : round.task? id with
      | none =>
        rw [carried] at startedAfter
        cases startedAfter
      | some other =>
        simp only [task?, found, waiting, List.head?_cons, Option.map_some, ended] at carried
        split at carried
        · cases carried
        · exact carried.symm
    have free : (member.woken id round.stage.fleet.context.time).pending = none := by
      rw [still, Option.isSome_eq_false_iff, Option.isNone_iff_eq_none] at held
      exact held
    rw [free, Option.toList_none, List.append_nil] at delivered
    rw [task, free, delivered]
    refine ⟨waiting.symm, ?_⟩
    cases left.turtle.animation.playing <;> simp [Task.response]

end Round

omit [Command C] in
/-- Further commands are numbered on behind the queue. -/
theorem Ledger.entries_takeIn {member : Member C} {ran waiting : List C} {published : List Response}
    (ledger : Ledger member ran waiting published) (commands : List C) :
    (member.takeIn commands).queue.entries =
      member.queue.entries ++ numbered (ran ++ waiting).length commands := by
  rw [Member.takeIn_open ledger.next ledger.isOpen]

namespace Stage

variable {stage : Stage C M W} {handle : Submitter}

omit [Command C] [World W] [WorkMonitor M] in
theorem acceptedIn_of_held {member : Member C} (held : stage.fleet.holder? handle = some member)
    (deed : Deed C W) : acceptedIn handle stage deed = stage.arriving handle.turtleId deed := by
  obtain ⟨found, own⟩ := Fleet.holder?_eq_some_iff.mp held
  rw [acceptedIn, held, arriving, found]
  exact congrArg (addressed · _) own.symm

/-- What a registration accepted, carried out and published, each command under its number. -/
inductive Chronicle (stage : Stage C M W) (handle : Submitter) (accepted : List C)
    (tasks : List (Task C)) (published : List Response) : Prop where
  | inForce {member : Member C} (held : stage.fleet.holder? handle = some member)
      (entries : tasks.map (·.1) ++ member.queue.entries = numbered 0 accepted)
      (answers : published ++ member.pending.toList = tasks.map (·.response)) :
      Chronicle stage handle accepted tasks published
  | ended {left : List (QueueEntry C)} (gone : stage.fleet.holder? handle = none)
      (entries : tasks.map (·.1) ++ left = numbered 0 accepted)
      (answers : published = tasks.map (·.response) ++ left.map (·.prevented)) :
      Chronicle stage handle accepted tasks published

namespace Chronicle

variable {accepted : List C} {tasks : List (Task C)} {published : List Response} {member : Member C}

theorem next_tick (account : Account stage handle accepted published)
    (held : stage.fleet.holder? handle = some member)
    (entries : tasks.map (·.1) ++ member.queue.entries = numbered 0 accepted)
    (answers : published ++ member.pending.toList = tasks.map (·.response))
    (arrivals : TurtleId → List (Submitter × C)) (nanos : TurtleId → Nat) :
    Chronicle (stage.next (.tick arrivals nanos)) handle
      (accepted ++ acceptedIn handle stage (.tick arrivals nanos))
      (tasks ++ workIn handle stage (.tick arrivals nanos))
      (published ++ publishedIn handle stage (.tick arrivals nanos)) := by
  obtain ⟨found, own⟩ := Fleet.holder?_eq_some_iff.mp held
  obtain ⟨ran, waiting, all, ledger⟩ := account.ledger held
  obtain ⟨cursor, after⟩ := stage.next_tick arrivals nanos
  obtain ⟨early, late, reaches⟩ := Operation.exists_reaches arrivals nanos found
  obtain ⟨heardNow, served, foundServed, heardServed, ⟨ranNow, waitingNow, split, ledgerNow⟩, carried,
    answered⟩ := Round.tasks_of_visit reaches.found (ledger.takeIn early) (nanos handle.turtleId)
  have foundAfter : (stage.next (.tick arrivals nanos)).fleet.members.get? handle.turtleId =
      some (served.takeIn late) := by
    rw [after]
    exact reaches.foundAfter.trans (by rw [foundServed, Option.map_some])
  have publishedNow : publishedIn handle stage (.tick arrivals nanos) = heardNow := by
    apply publishedIn_of_heard held
    rw [after, ← reaches.unheard, ← heardServed]
    exact reaches.heardAfter
  have acceptedNow : acceptedIn handle stage (.tick arrivals nanos) = early ++ late := by
    rw [acceptedIn, held, reaches.split, own]
    rfl
  have workNow : workIn handle stage (.tick arrivals nanos) =
      ((Operation.reached arrivals nanos stage handle.turtleId).task? handle.turtleId).toList := by
    rw [workIn, held, Option.isSome_some, if_pos rfl]
  have registration : (served.takeIn late).registration = member.registration := by
    obtain ⟨other, foundOther, same⟩ := Round.visit_registration reaches.found (nanos handle.turtleId)
    cases foundServed.symm.trans foundOther
    exact same
  refine .inForce (holder?_of_same held foundAfter registration) ?_ ?_
  · have queued : (member.takeIn early).queue.entries =
        member.queue.entries ++ numbered accepted.length early := by
      rw [ledger.entries_takeIn, all]
    have queuedNow : (served.takeIn late).queue.entries =
        served.queue.entries ++ numbered (accepted ++ early).length late := by
      rw [ledgerNow.entries_takeIn, split, all, List.append_assoc]
    have total : numbered 0 (accepted ++ (early ++ late)) = numbered 0 accepted ++
        (numbered accepted.length early ++ numbered (accepted ++ early).length late) := by
      rw [← List.append_assoc, numbered_append, numbered_append, Nat.zero_add, Nat.zero_add,
        List.append_assoc]
    rw [queuedNow, workNow, acceptedNow, total, ← entries, List.map_append, List.append_assoc,
      ← List.append_assoc _ served.queue.entries, carried, queued, List.append_assoc,
      List.append_assoc]
  · show (published ++ publishedIn handle stage (.tick arrivals nanos)) ++ served.pending.toList = _
    rw [publishedNow, workNow, List.append_assoc, answered, List.map_append, ← answers,
      List.append_assoc]
    rfl

theorem next_untimed (booked : stage.Booked) (account : Account stage handle accepted published)
    {deed : Deed C W} (whole : ¬ stage.Breaks deed.perform) (untimed : deed.isTick = false)
    (held : stage.fleet.holder? handle = some member)
    (entries : tasks.map (·.1) ++ member.queue.entries = numbered 0 accepted)
    (answers : published ++ member.pending.toList = tasks.map (·.response)) :
    Chronicle (stage.next deed) handle (accepted ++ acceptedIn handle stage deed) tasks
      (published ++ publishedIn handle stage deed) := by
  obtain ⟨ran, waiting, all, ledger⟩ := account.ledger held
  have fate := fate_of_held booked whole held
  rw [acceptedIn_of_held held]
  generalize stage.arriving handle.turtleId deed = commands at fate ⊢
  generalize publishedIn handle stage deed = heardNow at fate ⊢
  generalize stage.started handle.turtleId deed = executed at fate
  generalize after : (stage.next deed).fleet.members.get? handle.turtleId = later at fate
  cases fate with
  | tookIn =>
    refine .inForce (holder?_of_same held after rfl) ?_ ?_
    · rw [ledger.entries_takeIn, ← all, ← List.append_assoc, entries, numbered_append, Nat.zero_add]
    · rw [List.append_nil]
      exact answers
  | refitted _ _ same =>
    refine .inForce (holder?_of_same held after rfl) ?_ ?_
    · rw [List.append_nil]
      exact entries
    · rw [List.append_nil]
      exact answers
  | ticked timed =>
    rw [timed] at untimed
    cases untimed
  | released =>
    have gone := Fleet.holder?_of_missing after
    have rest : tasks.map (·.1) ++ member.queue.entries = numbered 0 (accepted ++ []) := by
      rw [List.append_nil]
      exact entries
    refine .ended gone rest ?_
    rw [← answers, List.append_assoc]
    rfl

theorem next (chronicle : Chronicle stage handle accepted tasks published) (booked : stage.Booked)
    (account : Account stage handle accepted published) {deed : Deed C W}
    (whole : ¬ stage.Breaks deed.perform) :
    Chronicle (stage.next deed) handle (accepted ++ acceptedIn handle stage deed)
      (tasks ++ workIn handle stage deed) (published ++ publishedIn handle stage deed) := by
  cases chronicle with
  | inForce held entries answers =>
    cases timed : deed.isTick with
    | false =>
      rw [workIn_of_untimed timed, List.append_nil]
      exact next_untimed booked account whole timed held entries answers
    | true =>
      cases deed with
      | tick arrivals nanos => exact next_tick account held entries answers arrivals nanos
      | _ => cases timed
  | @ended left gone entries answers =>
    have nothing : acceptedIn handle stage deed = [] ∧ workIn handle stage deed = [] ∧
        publishedIn handle stage deed = [] := by
      refine ⟨by simp [acceptedIn, gone], ?_, by simp [publishedIn, gone]⟩
      cases deed <;> simp [workIn, gone]
    rw [nothing.1, nothing.2.1, nothing.2.2, List.append_nil, List.append_nil, List.append_nil]
    rcases held : (stage.next deed).fleet.holder? handle with _ | now
    · exact .ended held entries answers
    · obtain ⟨registration, counted, opened⟩ := Account.enrolled_of_gone whole gone
        (fun member found => booked.audible found) held
      have unused : accepted = [] := by
        cases account with
        | inForce heldBefore known ledger =>
          rw [gone] at heldBefore
          cases heldBefore
        | ended _ known settled => exact known.resolve_left (by omega)
      subst unused
      obtain ⟨noTasks, noneLeft⟩ := List.append_eq_nil_iff.mp entries
      rw [List.map_eq_nil_iff] at noTasks
      subst noTasks
      subst noneLeft
      have free : now.pending = none := by simpa [numbered] using opened.answered
      refine .inForce held ?_ ?_
      · exact opened.queued
      · rw [answers, free]
        rfl

theorem of_leads {last : Stage C M W} {course : List (Deed C W)} (booked : stage.Booked)
    (led : stage.Leads course last) (chronicle : Chronicle stage handle accepted tasks published)
    (account : Account stage handle accepted published) :
    Chronicle last handle (accepted ++ stage.accepted handle course)
      (tasks ++ stage.work handle course) (published ++ stage.published handle course) := by
  induction led generalizing accepted tasks published with
  | rest stage => simpa [Stage.accepted, work, Stage.published, collect] using chronicle
  | @step stage last deed deeds whole later ih =>
    have done := ih (booked.next whole) (chronicle.next booked account whole)
      (account.next whole fun member found => booked.audible found)
    rw [List.append_assoc, List.append_assoc, List.append_assoc] at done
    exact done

omit [Command C] [World W] [WorkMonitor M] in
theorem of_opening (opening : stage.Opening) (handle : Submitter) :
    Chronicle stage handle [] [] [] := .ended (opening.holder? handle) (List.append_nil _) rfl

end Chronicle

/-- The response to an accepted command, given what was carried out. -/
inductive Settles (stage : Stage C M W) (handle : Submitter) (tasks : List (Task C))
    (entry : QueueEntry C) : Response → Prop where
  | carriedOut {result : Except Stop (List Json)} (carried : (entry, result) ∈ tasks) :
      Settles stage handle tasks entry (Task.response (entry, result))
  /-- The turtle was removed before it came to the command. -/
  | prevented (gone : stage.fleet.holder? handle = none)
      (uncarried : ∀ result, (entry, result) ∉ tasks) :
      Settles stage handle tasks entry entry.prevented

omit [Command C] [World W] [WorkMonitor M] in
/-- Whatever is published settles the accepted command of its number. -/
theorem Chronicle.settles {accepted : List C} {tasks : List (Task C)} {published : List Response}
    (chronicle : Chronicle stage handle accepted tasks published) (few : accepted.length < word64)
    {response : Response} (heard : response ∈ published) :
    ∃ entry ∈ numbered 0 accepted, entry.id = response.id ∧ stage.Settles handle tasks entry response := by
  have settled {task : Task C} (listed : task ∈ tasks) {others : List (QueueEntry C)}
      (entries : tasks.map (·.1) ++ others = numbered 0 accepted) :
      ∃ entry ∈ numbered 0 accepted, entry.id = task.response.id ∧
        stage.Settles handle tasks entry task.response := by
    refine ⟨task.1, ?_, task.response_id.symm, .carriedOut listed⟩
    rw [← entries]
    exact List.mem_append_left _ (List.mem_map_of_mem listed)
  cases chronicle with
  | inForce held entries answers =>
    have carried : response ∈ tasks.map (·.response) := by
      rw [← answers]
      exact List.mem_append_left _ heard
    obtain ⟨task, listed, same⟩ := List.mem_map.mp carried
    rw [← same]
    exact settled listed entries
  | @ended left gone entries answers =>
    rw [answers] at heard
    rcases List.mem_append.mp heard with carried | failed
    · obtain ⟨task, listed, same⟩ := List.mem_map.mp carried
      rw [← same]
      exact settled listed entries
    · obtain ⟨entry, waiting, same⟩ := List.mem_map.mp failed
      have distinct : ((tasks.map (·.1) ++ left).map (·.id)).Nodup := by
        rw [entries, map_id_numbered_of_few few]
        exact List.nodup_range'
      rw [← same]
      refine ⟨entry, ?_, rfl, .prevented gone fun result carried => ?_⟩
      · rw [← entries]
        exact List.mem_append_right _ waiting
      · rw [List.map_append] at distinct
        exact (List.nodup_append.mp distinct).2.2 entry.id
          (List.mem_map_of_mem (List.mem_map_of_mem carried)) entry.id (List.mem_map_of_mem waiting) rfl

end Stage

end TurtleFleet
