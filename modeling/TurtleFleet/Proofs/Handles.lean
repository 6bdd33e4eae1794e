import Mathlib.Data.List.Nodup
import TurtleFleet.Proofs.Career

/-! Handles: every registration gives out a handle that no other registration gives out, and each of
these handles counts its own submissions, from the registration on and also after it is over. Whatever
else is done with the fleet leaves the count alone. -/

namespace TurtleFleet

variable {C M W : Type}

/-! ### Counting the submissions of a handle -/

namespace Fleet

def queueOf (fleet : Fleet C M) (handle : Submitter) : CommandQueue C :=
  match fleet.holder? handle with
  | some member => member.queue
  | none => (fleet.retired.lookup handle.registration).getD { isOpen := false }

theorem submitVia_fst (fleet : Fleet C M) (handle : Submitter) (command : C) :
    (fleet.submitVia handle command).1 = (fleet.queueOf handle).nextId := by
  unfold submitVia queueOf
  cases fleet.holder? handle <;> rfl

/-- So many commands were submitted through a handle, whose registration is in force or is not. -/
structure Counts (fleet : Fleet C M) (handle : Submitter) (live : Bool) (count : Nat) : Prop where
  held : (fleet.holder? handle).isSome = live
  next : (fleet.queueOf handle).nextId = submissionNumber count

/-- The second fleet has the same registrations as the first, and their queues go on numbering where
those of the first would. -/
structure Alike (first second : Fleet C M) : Prop where
  members : ∀ id, (second.members.get? id).map (fun member =>
      (member.registration, member.queue.nextId)) =
    (first.members.get? id).map fun member => (member.registration, member.queue.nextId)
  retired : second.retired = first.retired

theorem Alike.setMember {fleet : Fleet C M} {id : TurtleId} {member other : Member C}
    (found : fleet.members.get? id = some member)
    (registration : other.registration = member.registration)
    (next : other.queue.nextId = member.queue.nextId) : fleet.Alike (fleet.setMember id other) := by
  refine ⟨fun name => ?_, rfl⟩
  by_cases own : name = id
  · rw [Fleet.setMember, own, Keyed.get?_insert_self, found, Option.map_some, Option.map_some,
      registration, next]
  · rw [Fleet.setMember, Keyed.get?_insert_of_ne _ _ own]

theorem Alike.trans {first second third : Fleet C M} (alike : first.Alike second)
    (further : second.Alike third) : first.Alike third :=
  ⟨fun id => (further.members id).trans (alike.members id), further.retired.trans alike.retired⟩

theorem Alike.holder? {first second : Fleet C M} (alike : first.Alike second) (handle : Submitter) :
    (second.holder? handle).map (·.queue.nextId) = (first.holder? handle).map (·.queue.nextId) := by
  have same := alike.members handle.turtleId
  unfold Fleet.holder?
  cases before : first.members.get? handle.turtleId with
  | none =>
    rw [before, Option.map_none, Option.map_eq_none_iff] at same
    rw [same]
  | some member =>
    rw [before, Option.map_some] at same
    obtain ⟨now, after, equal⟩ := Option.map_eq_some_iff.mp same
    obtain ⟨registration, next⟩ := Prod.mk.inj equal
    rw [after]
    rw [Option.filter_some, Option.filter_some, registration]
    split
    · rw [Option.map_some, Option.map_some, next]
    · rfl

theorem Counts.of_alike {first second : Fleet C M} {handle : Submitter} {live : Bool} {count : Nat}
    (counts : first.Counts handle live count) (alike : first.Alike second) :
    second.Counts handle live count := by
  have same := alike.holder? handle
  obtain ⟨held, next⟩ := counts
  unfold queueOf at next
  cases before : first.holder? handle with
  | none =>
    rw [before, Option.map_none, Option.map_eq_none_iff] at same
    rw [before] at held next
    refine ⟨by rw [same]; exact held, ?_⟩
    rw [queueOf, same, alike.retired]
    exact next
  | some member =>
    rw [before, Option.map_some] at same
    obtain ⟨now, after, equal⟩ := Option.map_eq_some_iff.mp same
    rw [before] at held next
    refine ⟨by rw [after]; exact held, ?_⟩
    rw [queueOf, after]
    exact equal.trans next

variable {fleet : Fleet C M} {handle : Submitter} {live : Bool} {count : Nat}

theorem Counts.submitVia_self (counts : fleet.Counts handle live count) (command : C) :
    (fleet.submitVia handle command).2.Counts handle live (count + 1) := by
  obtain ⟨held, next⟩ := counts
  unfold queueOf at next
  rcases holder : fleet.holder? handle with _ | member
  · rw [holder] at held next
    have after : (fleet.submitVia handle command).2.holder? handle = none := by
      have kept : (fleet.submitVia handle command).2.members = fleet.members := by
        simp only [submitVia, holder]
      rw [Fleet.holder?, kept]
      exact holder
    refine ⟨by rw [after]; exact held, ?_⟩
    rw [queueOf, after, ← submissionNumber_succ, ← next]
    simp only [submitVia, holder, List.lookup_cons_self, Option.getD_some, CommandQueue.submit]
  · rw [holder] at held next
    obtain ⟨found, own⟩ := holder?_eq_some_iff.mp holder
    have after : (fleet.submitVia handle command).2.holder? handle =
        some (member.takeIn [command]) := by
      refine holder?_eq_some_iff.mpr ⟨?_, own⟩
      rw [get?_submitVia, found, Option.map_some, own, addressed_cons, if_pos rfl]
      rfl
    refine ⟨by rw [after]; exact held, ?_⟩
    rw [queueOf, after, ← submissionNumber_succ, ← next]
    rfl

theorem Counts.submitVia_of_ne (counts : fleet.Counts handle live count) {other : Submitter}
    (apart : other.registration ≠ handle.registration) (command : C) :
    (fleet.submitVia other command).2.Counts handle live count := by
  have different : other ≠ handle := fun same => apart (by rw [same])
  have sameHolder : (fleet.submitVia other command).2.holder? handle = fleet.holder? handle := by
    unfold Fleet.holder?
    rw [get?_submitVia]
    cases found : fleet.members.get? handle.turtleId with
    | none => rfl
    | some member =>
      rw [Option.map_some, Option.filter_some, Option.filter_some, Member.takeIn_registration]
      split
      · rename_i own
        have unmeant : other ≠ member.handle handle.turtleId := by
          intro same
          rw [same] at apart
          exact apart (of_decide_eq_true own)
        rw [addressed_cons, if_neg unmeant, addressed_nil, Member.takeIn_nil]
      · rfl
  have sameRetired : (fleet.submitVia other command).2.retired.lookup handle.registration =
      fleet.retired.lookup handle.registration := by
    unfold submitVia
    split
    · rfl
    · rw [List.lookup_cons, beq_false_of_ne (Ne.symm apart)]
      exact (Keyed.lookup_filter_ne fleet.retired _ _).trans (if_neg (Ne.symm apart))
  refine ⟨by rw [sameHolder]; exact counts.held, ?_⟩
  rw [queueOf, sameHolder, sameRetired]
  exact counts.next

/-- No submission goes through a handle that looks like another one. -/
def Unmistaken (handle : Submitter) (arrivals : List (Submitter × C)) : Prop :=
  ∀ arrival ∈ arrivals, arrival.1.registration = handle.registration → arrival.1 = handle

theorem Counts.submitVia (counts : fleet.Counts handle live count) {arrival : Submitter × C}
    (unmistaken : Unmistaken handle [arrival]) :
    (fleet.submitVia arrival.1 arrival.2).2.Counts handle live
      (count + (addressed handle [arrival]).length) := by
  by_cases own : arrival.1 = handle
  · rw [addressed_cons, if_pos own, own]
    exact counts.submitVia_self arrival.2
  · rw [addressed_cons, if_neg own]
    exact counts.submitVia_of_ne (fun same => own (unmistaken arrival (by simp) same)) arrival.2

theorem Counts.takeIn (counts : fleet.Counts handle live count) {arrivals : List (Submitter × C)}
    (unmistaken : Unmistaken handle arrivals) :
    (fleet.takeIn arrivals).Counts handle live (count + (addressed handle arrivals).length) := by
  induction arrivals generalizing fleet count with
  | nil => exact counts
  | cons arrival rest ih =>
    have unmistakenFirst : Unmistaken handle [arrival] := fun other listed =>
      unmistaken other (List.mem_cons.mpr (.inl (List.mem_singleton.mp listed)))
    have later := ih (counts.submitVia unmistakenFirst) fun other listed =>
      unmistaken other (List.mem_cons_of_mem _ listed)
    rw [Nat.add_assoc, ← List.length_append, ← addressed_append] at later
    exact later

theorem Counts.release_self (counts : fleet.Counts handle true count) {member : Member C}
    (holder : fleet.holder? handle = some member) :
    (fleet.release handle.turtleId member).Counts handle false count := by
  obtain ⟨found, own⟩ := holder?_eq_some_iff.mp holder
  have next := counts.next
  rw [queueOf, holder] at next
  have after : (fleet.release handle.turtleId member).holder? handle = none := by
    apply holder?_of_missing
    rw [release, Keyed.get?_erase, if_pos rfl]
  have registration : handle.registration = member.registration := by
    rw [← own]
    rfl
  refine ⟨by rw [after]; rfl, ?_⟩
  rw [queueOf, after, release, registration, List.lookup_cons_self, Option.getD_some]
  exact next

theorem Counts.release_of_ne (counts : fleet.Counts handle live count) {id : TurtleId}
    {member : Member C} (found : fleet.members.get? id = some member)
    (apart : member.registration ≠ handle.registration) :
    (fleet.release id member).Counts handle live count := by
  have sameHolder : (fleet.release id member).holder? handle = fleet.holder? handle := by
    unfold Fleet.holder?
    rw [release, Keyed.get?_erase]
    split
    · rename_i own
      rw [own, found, Option.filter_some, if_neg (by simpa using apart)]
      rfl
    · rfl
  refine ⟨by rw [sameHolder]; exact counts.held, ?_⟩
  rw [queueOf, sameHolder, release, List.lookup_cons, beq_false_of_ne (Ne.symm apart)]
  exact counts.next

theorem counts_enroll (fleet : Fleet C M) (turtle : Turtle) :
    (fleet.enroll turtle).2.Counts (fleet.enroll turtle).1 true 0 := by
  have after : (fleet.enroll turtle).2.holder? (fleet.enroll turtle).1 =
      some { registration := fleet.registrations, turtle, queue := {} } :=
    holder?_eq_some_iff.mpr ⟨Keyed.get?_insert_self .., rfl⟩
  refine ⟨by rw [after]; rfl, ?_⟩
  rw [queueOf, after]
  rfl

theorem Counts.enroll (counts : fleet.Counts handle live count) {turtle : Turtle}
    (absent : fleet.members.get? turtle.id = none)
    (older : handle.registration < fleet.registrations) :
    (fleet.enroll turtle).2.Counts handle live count := by
  have sameHolder : (fleet.enroll turtle).2.holder? handle = fleet.holder? handle := by
    unfold Fleet.holder?
    by_cases own : handle.turtleId = turtle.id
    · have entered : (fleet.enroll turtle).2.members.get? handle.turtleId =
          some { registration := fleet.registrations, turtle, queue := {} } := by
        rw [own]
        exact Keyed.get?_insert_self ..
      have strange : fleet.registrations ≠ handle.registration := by omega
      rw [entered, own, absent, Option.filter_some, if_neg (by simpa using strange)]
      rfl
    · have kept : (fleet.enroll turtle).2.members.get? handle.turtleId =
          fleet.members.get? handle.turtleId := Keyed.get?_insert_of_ne _ _ own
      rw [kept]
  refine ⟨by rw [sameHolder]; exact counts.held, ?_⟩
  rw [queueOf, sameHolder]
  exact counts.next

end Fleet

variable [Command C] [World W] [WorkMonitor M]

omit [Command C] [World W] [WorkMonitor M] in
theorem Round.alike_wake (round : Round C M W) {id : TurtleId} {member : Member C}
    (found : round.stage.fleet.members.get? id = some member) (monitor : M) :
    round.stage.fleet.Alike ((round.wake id member).2.watched monitor).stage.fleet := by
  have woken : round.stage.fleet.Alike (round.wake id member).2.stage.fleet := by
    rw [wake_fleet]
    exact .setMember found (member.woken_registration id _) (by rw [Member.woken_queue])
  exact ⟨woken.members, woken.retired⟩

theorem Round.alike_visit (round : Round C M W) (id : TurtleId) (nanos : Nat) :
    round.stage.fleet.Alike (round.visit id nanos).stage.fleet := by
  have attends := round.attends_visit id nanos
  generalize round.visit id nanos = left at attends ⊢
  generalize round.task? id = task at attends
  cases attends with
  | absent missing => exact ⟨fun _ => rfl, rfl⟩
  | @waits member monitor deferred found => exact round.alike_wake found monitor
  | @works member entry rest monitor found still waiting =>
    let ready := (round.wake id member).2.watched monitor
    let idle : Member C :=
      { member.woken id round.stage.fleet.time with queue := { member.queue with entries := rest } }
    have known : ready.stage.fleet.members.get? id = some (member.woken id round.stage.fleet.time) :=
      Keyed.get?_insert_self ..
    have ran : ∃ served : Member C, (ready.execute id idle entry nanos).stage.fleet.members =
        ready.stage.fleet.members.insert id served ∧
        served.registration = (member.woken id round.stage.fleet.time).registration ∧
        served.queue.nextId = (member.woken id round.stage.fleet.time).queue.nextId := by
      refine ⟨_, rfl, rfl, ?_⟩
      rw [Member.woken_queue]
    obtain ⟨served, left, registration, next⟩ := ran
    have alike := Fleet.Alike.setMember known registration next
    refine (round.alike_wake found monitor).trans ⟨?_, rfl⟩
    rw [left]
    exact alike.members

section

variable (arrivals : TurtleId → List (Submitter × C)) (nanos : TurtleId → Nat) {handle : Submitter}
  {live : Bool}

theorem Round.counts_turn {round : Round C M W} {count : Nat}
    (counts : round.stage.fleet.Counts handle live count) {id : TurtleId}
    (unmistaken : Fleet.Unmistaken handle (arrivals id)) :
    (turn arrivals nanos round id).stage.fleet.Counts handle live
      (count + (addressed handle (arrivals id)).length) := by
  have taken : (round.takeIn (arrivals id)).stage.fleet.Counts handle live
      (count + (addressed handle (arrivals id)).length) := counts.takeIn unmistaken
  exact taken.of_alike ((round.takeIn (arrivals id)).alike_visit id (nanos id))

theorem Round.counts_turns {round : Round C M W} {count : Nat}
    (counts : round.stage.fleet.Counts handle live count) {ids : List TurtleId}
    (unmistaken : Fleet.Unmistaken handle (ids.flatMap arrivals)) :
    (ids.foldl (turn arrivals nanos) round).stage.fleet.Counts handle live
      (count + (addressed handle (ids.flatMap arrivals)).length) := by
  induction ids generalizing round count with
  | nil => exact counts
  | cons id rest ih =>
    rw [List.flatMap_cons] at unmistaken ⊢
    have turned := counts_turn arrivals nanos counts fun arrival listed =>
      unmistaken arrival (List.mem_append_left _ listed)
    have later := ih turned fun arrival listed =>
      unmistaken arrival (List.mem_append_right _ listed)
    rw [Nat.add_assoc, ← List.length_append, ← addressed_append] at later
    exact later

end

/-! ### The handles that are given out -/

namespace Stage

/-- The handle that a deed gives out, if it is a registration that succeeds. -/
def issuedIn (stage : Stage C M W) : Deed C W → List Submitter
  | .register spec =>
    match Operation.register spec stage with
    | .ok handle _ => [handle]
    | .error .. => []
  | _ => []

/-- The handles that are given out in a course, from the first one on. -/
def issued : Stage C M W → List (Deed C W) → List Submitter := collect issuedIn

omit [Command C] [WorkMonitor M] in
theorem issuedIn_of_other {stage : Stage C M W} {deed : Deed C W}
    (other : deed.isRegistration = false) : stage.issuedIn deed = [] := by
  cases deed with
  | register spec => cases other
  | _ => rfl

/-- The handles that were given out so far are known, and no two of them look alike. -/
structure Roll (stage : Stage C M W) (issued : List Submitter) : Prop where
  booked : stage.Booked
  numbered : issued.map (·.registration) = List.range stage.fleet.registrations
  listed : ∀ handle member, stage.fleet.holder? handle = some member → handle ∈ issued

namespace Roll

variable {stage : Stage C M W} {issued : List Submitter}

omit [Command C] [World W] [WorkMonitor M] in
theorem older (roll : stage.Roll issued) {handle : Submitter} (listed : handle ∈ issued) :
    handle.registration < stage.fleet.registrations := by
  have counted : handle.registration ∈ issued.map (·.registration) := List.mem_map_of_mem listed
  rw [roll.numbered] at counted
  exact List.mem_range.mp counted

omit [Command C] [World W] [WorkMonitor M] in
theorem eq_of_registration (roll : stage.Roll issued) {handle other : Submitter}
    (listed : handle ∈ issued) (listedOther : other ∈ issued)
    (same : other.registration = handle.registration) : other = handle := by
  have distinct : (issued.map (·.registration)).Nodup := by
    rw [roll.numbered]
    exact List.nodup_range
  exact List.inj_on_of_nodup_map distinct listedOther listed same

omit [Command C] [World W] [WorkMonitor M] in
theorem of_opening (opening : stage.Opening) : stage.Roll [] := by
  have none := opening.holder?
  refine { booked := ?_, numbered := ?_, listed := ?_ }
  · intro handle
    exact ⟨[], [], .of_opening opening handle⟩
  · obtain ⟨made, catalog, world⟩ := opening
    obtain ⟨sanitized, _, same⟩ := Fleet.new_eq made
    rw [same]
    rfl
  · intro handle member held
    rw [none] at held
    cases held

theorem next (roll : stage.Roll issued) {deed : Deed C W} (whole : ¬ stage.Breaks deed.perform) :
    (stage.next deed).Roll (issued ++ stage.issuedIn deed) := by
  refine { booked := roll.booked.next whole, numbered := ?_, listed := ?_ }
  · cases registers : deed.isRegistration with
    | false =>
      rw [issuedIn_of_other registers, List.append_nil, stage.registrations_next whole registers]
      exact roll.numbered
    | true =>
      cases deed with
      | register spec =>
        have ends := Operation.registers_register stage spec
        have next := stage.next_register spec
        rw [issuedIn]
        generalize ended : Operation.register spec stage = result at ends ⊢
        rw [Stage.after, ended] at next
        rw [next]
        cases ends with
        | duplicate known => simpa using roll.numbered
        | unspawned absent spawned quiet untold => simpa using roll.numbered
        | discarded absent spawned foreign removed quiet untold => simpa using roll.numbered
        | enrolled absent spawned kind quiet untold =>
          rw [List.map_append, roll.numbered]
          exact List.range_succ.symm
        | broken fault left =>
          refine (whole ⟨fault, left, ?_⟩).elim
          simp only [Deed.perform, bind_of_error ended]
      | _ => cases registers
  · intro handle member held
    rcases before : stage.fleet.holder? handle with _ | was
    · obtain ⟨spec, same, registered⟩ := roll.booked.registered whole before held
      subst same
      apply List.mem_append_right
      rw [issuedIn, registered]
      exact List.mem_singleton_self handle
    · exact List.mem_append_left _ (roll.listed handle was before)

omit [Command C] [World W] [WorkMonitor M] in
theorem unmistaken (roll : stage.Roll issued) {handle : Submitter} (listed : handle ∈ issued)
    {arrivals : List (Submitter × C)} (known : ∀ arrival ∈ arrivals, arrival.1 ∈ issued) :
    Fleet.Unmistaken handle arrivals := by
  intro arrival arrived same
  exact roll.eq_of_registration listed (known arrival arrived) same

theorem counts_next (roll : stage.Roll issued) {deed : Deed C W}
    (whole : ¬ stage.Breaks deed.perform) {handle : Submitter} (listed : handle ∈ issued)
    (known : ∀ arrival ∈ deed.submissions stage.fleet, arrival.1 ∈ issued) {live : Bool}
    {count : Nat} (counts : stage.fleet.Counts handle live count) :
    ∃ now, (stage.next deed).fleet.Counts handle now
      (count + (addressed handle (deed.submissions stage.fleet)).length) := by
  have unmistaken := roll.unmistaken listed known
  have does := stage.does_next deed whole
  generalize left : stage.next deed = after at does ⊢
  cases does with
  | declined silent untimed lasting =>
    rw [silent]
    exact ⟨live, counts⟩
  | unremoved missing => exact ⟨live, counts⟩
  | submitted submitter command => exact ⟨live, counts.submitVia unmistaken⟩
  | submittedFor command found =>
    simp only [Deed.submissions, found, Option.map_some, Option.toList_some] at unmistaken ⊢
    exact ⟨live, counts.submitVia unmistaken⟩
  | ticked arrivals nanos =>
    obtain ⟨cursor, ended⟩ := stage.next_tick arrivals nanos
    have begun : (Operation.opened stage).stage.fleet.Counts handle live count :=
      ⟨counts.held, counts.next⟩
    obtain ⟨held, next⟩ := Round.counts_turns arrivals nanos begun unmistaken
    rw [← left, ended]
    exact ⟨live, held, next⟩
  | unspawned absent spawned quiet => exact ⟨live, counts⟩
  | discarded absent spawned foreign removed quiet => exact ⟨live, counts⟩
  | enrolled absent spawned kind quiet => exact ⟨live, counts.enroll absent (roll.older listed)⟩
  | upgraded side upgrade found => exact ⟨live, counts.of_alike (.setMember found rfl rfl)⟩
  | attached found apart => exact ⟨live, counts.of_alike (.setMember found rfl rfl)⟩
  | detached found joined => exact ⟨live, counts.of_alike (.setMember found rfl rfl)⟩
  | @removed id member _ _ found answered quiet =>
    have own : member.handle id ∈ issued :=
      roll.listed (member.handle id) member (Fleet.holder?_of_handle found)
    by_cases same : member.registration = handle.registration
    · have equal : member.handle id = handle := roll.eq_of_registration listed own same
      have holder : stage.fleet.holder? handle = some member := by
        rw [← equal]
        exact Fleet.holder?_of_handle found
      have inForce : live = true := by rw [← counts.held, holder, Option.isSome_some]
      subst inForce
      subst equal
      exact ⟨false, counts.release_self holder⟩
    · exact ⟨live, counts.release_of_ne found same⟩
  | reshaped change => exact ⟨live, counts⟩

end Roll

/-- A handle that was just given out has numbered nothing yet. -/
theorem counts_issued {stage : Stage C M W} {deed : Deed C W} {handle : Submitter}
    (given : handle ∈ stage.issuedIn deed) : (stage.next deed).fleet.Counts handle true 0 := by
  cases deed with
  | register spec =>
    have ends := Operation.registers_register stage spec
    have next := stage.next_register spec
    rw [issuedIn] at given
    generalize ended : Operation.register spec stage = result at ends given
    rw [Stage.after, ended] at next
    rw [next]
    cases ends with
    | enrolled absent spawned kind quiet untold =>
      rw [List.mem_singleton.mp given]
      exact Fleet.counts_enroll ..
    | duplicate known => cases given
    | unspawned absent spawned quiet untold => cases given
    | discarded absent spawned foreign removed quiet untold => cases given
    | broken fault left => cases given
  | _ => cases given

end Stage

end TurtleFleet
