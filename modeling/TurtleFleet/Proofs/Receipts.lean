import TurtleFleet.Proofs.Handles

/-! Receipts: the numbers that are handed out for submissions, also through handles of registrations
that are over. The numbers of one registration are never reused: each is handed out once, the
responses go out under those of the accepted submissions in their order, and no response goes out
under the number of a dropped one. A later registration of the same turtle counts anew, so that for
the turtle as a whole this holds as long as it is registered only once. -/

namespace TurtleFleet

variable {C M W : Type}

/-- What is handed out for a submission. -/
structure Receipt (C : Type) where
  handle : Submitter
  /-- The command and the number that it was given. -/
  entry : QueueEntry C
  /-- Whether the registration is in force. The command is dropped if it is not. -/
  accepted : Bool

namespace Fleet

/-- The receipt for a command that is submitted through a handle. -/
def receipt (fleet : Fleet C M) (handle : Submitter) (command : C) : Receipt C :=
  { handle, entry := { id := (fleet.submitVia handle command).1, command },
    accepted := (fleet.holder? handle).isSome }

/-- The receipts for submissions that come in one after another. -/
def receipts (fleet : Fleet C M) : List (Submitter × C) → List (Receipt C)
  | [] => []
  | arrival :: rest =>
    fleet.receipt arrival.1 arrival.2 :: (fleet.submitVia arrival.1 arrival.2).2.receipts rest

theorem map_handle_receipts (fleet : Fleet C M) (arrivals : List (Submitter × C)) :
    (fleet.receipts arrivals).map (·.handle) = arrivals.map (·.1) := by
  induction arrivals generalizing fleet with
  | nil => rfl
  | cons arrival rest ih => exact congrArg (arrival.1 :: ·) (ih _)

end Fleet

/-- The receipts for some commands that are submitted through one handle, after so many others. -/
def Receipt.series (handle : Submitter) (accepted : Bool) (earlier : Nat) (commands : List C) :
    List (Receipt C) :=
  (numbered earlier commands).map fun entry => { handle, entry, accepted }

namespace Receipt

theorem series_append (handle : Submitter) (accepted : Bool) (earlier : Nat)
    (first second : List C) :
    series handle accepted earlier first ++
        series handle accepted (earlier + first.length) second =
      series handle accepted earlier (first ++ second) := by
  rw [series, series, series, numbered_append, List.map_append]

/-- The receipts of one handle among others. -/
def through (handle : Submitter) (receipts : List (Receipt C)) : List (Receipt C) :=
  receipts.filter (·.handle = handle)

@[simp] theorem through_append (handle : Submitter) (first second : List (Receipt C)) :
    through handle (first ++ second) = through handle first ++ through handle second :=
  List.filter_append ..

theorem through_of_absent {handle : Submitter} {receipts : List (Receipt C)}
    (absent : handle ∉ receipts.map (·.handle)) : through handle receipts = [] := by
  apply List.filter_eq_nil_iff.mpr
  intro receipt listed own
  have same : receipt.handle = handle := of_decide_eq_true own
  rw [← same] at absent
  exact absent (List.mem_map_of_mem listed)

/-- Whoever knows the number of a submission cannot mistake a response to another one for its own. -/
structure Unmistakable (receipts : List (Receipt C)) (responses : List Response) : Prop where
  /-- No number is handed out for two submissions. -/
  unique : (receipts.map (·.entry.id)).Nodup
  /-- The responses go out under the numbers of the accepted submissions, in their order. -/
  answered : responses.map (·.id) <+: (receipts.filter (·.accepted)).map (·.entry.id)
  /-- No two responses go out under one number. -/
  once : (responses.map (·.id)).Nodup
  /-- No response goes out under the number of a dropped submission. -/
  unseen : ∀ receipt ∈ receipts, receipt.accepted = false →
    ∀ response ∈ responses, response.id ≠ receipt.entry.id

theorem map_entry_series (handle : Submitter) (accepted : Bool) (earlier : Nat)
    (commands : List C) :
    (series handle accepted earlier commands).map (·.entry) = numbered earlier commands := by
  rw [series, List.map_map]
  exact List.map_id _

theorem accepted_of_mem_series {handle : Submitter} {accepted : Bool} {earlier : Nat}
    {commands : List C} {receipt : Receipt C}
    (listed : receipt ∈ series handle accepted earlier commands) : receipt.accepted = accepted := by
  obtain ⟨index, _, same⟩ := List.mem_map.mp listed
  rw [← same]

theorem Unmistakable.of_series {handle : Submitter} {commands dropped : List C}
    {receipts : List (Receipt C)} {responses : List Response}
    (all : receipts =
      series handle true 0 commands ++ series handle false commands.length dropped)
    (few : receipts.length < word64)
    (answered : responses.map (·.id) <+: (numbered 0 commands).map (·.id)) :
    Unmistakable receipts responses := by
  have entries : receipts.map (·.entry) = numbered 0 (commands ++ dropped) := by
    rw [all, List.map_append, map_entry_series, map_entry_series, numbered_append, Nat.zero_add]
  have numbers : receipts.map (·.entry.id) =
      (numbered 0 commands).map (·.id) ++ (numbered commands.length dropped).map (·.id) := by
    rw [← List.map_append, ← Nat.zero_add commands.length, ← numbered_append, ← entries,
      List.map_map]
    rfl
  have unique : (receipts.map (·.entry.id)).Nodup := by
    have fewCommands : (commands ++ dropped).length < word64 := by
      rwa [← length_numbered 0, ← entries, List.length_map]
    rw [numbers, ← List.map_append, ← Nat.zero_add commands.length, ← numbered_append,
      map_id_numbered_of_few fewCommands]
    exact List.nodup_range'
  have kept : receipts.filter (·.accepted) = series handle true 0 commands := by
    have first : (series handle true 0 commands).filter (·.accepted) =
        series handle true 0 commands :=
      List.filter_eq_self.mpr fun receipt listed => accepted_of_mem_series listed
    have second : (series handle false commands.length dropped).filter (·.accepted) = [] := by
      apply List.filter_eq_nil_iff.mpr
      intro receipt listed
      rw [accepted_of_mem_series listed]
      exact Bool.false_ne_true
    rw [all, List.filter_append, first, second, List.append_nil]
  have apart := List.nodup_append.mp (numbers ▸ unique)
  refine { unique, answered := ?_, once := answered.sublist.nodup apart.1, unseen := ?_ }
  · rw [← map_entry_series handle true, List.map_map] at answered
    rw [kept]
    exact answered
  · intro receipt listed unaccepted response heard
    have answeredId : response.id ∈ (numbered 0 commands).map (·.id) :=
      answered.subset (List.mem_map_of_mem heard)
    have late : receipt ∈ series handle false commands.length dropped := by
      rw [all] at listed
      refine (List.mem_append.mp listed).resolve_left fun early => ?_
      rw [accepted_of_mem_series early] at unaccepted
      cases unaccepted
    have number : receipt.entry.id ∈ (numbered commands.length dropped).map (·.id) := by
      rw [← map_entry_series handle false]
      exact List.mem_map_of_mem (List.mem_map_of_mem late)
    exact apart.2.2 response.id answeredId receipt.entry.id number

end Receipt

namespace Fleet.Counts

variable {fleet : Fleet C M} {handle : Submitter} {live : Bool} {count : Nat}

theorem receipt (counts : fleet.Counts handle live count) (command : C) :
    [fleet.receipt handle command] = Receipt.series handle live count [command] := by
  rw [Fleet.receipt, submitVia_fst, counts.next, counts.held]
  rfl

theorem receipts (counts : fleet.Counts handle live count) {arrivals : List (Submitter × C)}
    (unmistaken : Unmistaken handle arrivals) :
    Receipt.through handle (fleet.receipts arrivals) =
      Receipt.series handle live count (addressed handle arrivals) := by
  induction arrivals generalizing fleet count with
  | nil => rfl
  | cons arrival rest ih =>
    have first : Unmistaken handle [arrival] := fun other listed =>
      unmistaken other (List.mem_cons.mpr (.inl (List.mem_singleton.mp listed)))
    have later := ih (counts.submitVia first) fun other listed =>
      unmistaken other (List.mem_cons_of_mem _ listed)
    have split : Receipt.through handle (fleet.receipts (arrival :: rest)) =
        Receipt.through handle [fleet.receipt arrival.1 arrival.2] ++
          Receipt.through handle ((fleet.submitVia arrival.1 arrival.2).2.receipts rest) :=
      Receipt.through_append handle [fleet.receipt arrival.1 arrival.2] _
    have now : Receipt.through handle [fleet.receipt arrival.1 arrival.2] =
        Receipt.series handle live count (addressed handle [arrival]) := by
      by_cases own : arrival.1 = handle
      · rw [addressed_cons, if_pos own, own, addressed_nil, ← counts.receipt]
        exact List.filter_eq_self.mpr fun other listed => by
          rw [List.mem_singleton.mp listed]
          exact decide_eq_true rfl
      · rw [addressed_cons, if_neg own]
        exact Receipt.through_of_absent (by simpa [Fleet.receipt] using Ne.symm own)
    rw [split, now, later, Receipt.series_append, ← addressed_append]
    rfl

end Fleet.Counts

variable [Command C] [World W] [WorkMonitor M]

/-- The receipts for what comes in during the turns of some turtles. -/
def Round.receipts (arrivals : TurtleId → List (Submitter × C)) (nanos : TurtleId → Nat) :
    Round C M W → List TurtleId → List (Receipt C)
  | _, [] => []
  | round, id :: ids =>
    round.stage.fleet.receipts (arrivals id) ++
      receipts arrivals nanos (turn arrivals nanos round id) ids

theorem Round.map_handle_receipts (arrivals : TurtleId → List (Submitter × C))
    (nanos : TurtleId → Nat) (round : Round C M W) (ids : List TurtleId) :
    (round.receipts arrivals nanos ids).map (·.handle) = (ids.flatMap arrivals).map (·.1) := by
  induction ids generalizing round with
  | nil => rfl
  | cons id rest ih =>
    rw [receipts, List.map_append, ih, Fleet.map_handle_receipts, List.flatMap_cons,
      List.map_append]

theorem Round.receipts_of_counts (arrivals : TurtleId → List (Submitter × C))
    (nanos : TurtleId → Nat) {round : Round C M W} {handle : Submitter} {live : Bool} {count : Nat}
    (counts : round.stage.fleet.Counts handle live count) {ids : List TurtleId}
    (unmistaken : Fleet.Unmistaken handle (ids.flatMap arrivals)) :
    Receipt.through handle (round.receipts arrivals nanos ids) =
      Receipt.series handle live count (addressed handle (ids.flatMap arrivals)) := by
  induction ids generalizing round count with
  | nil => rfl
  | cons id rest ih =>
    rw [List.flatMap_cons] at unmistaken ⊢
    have early : Fleet.Unmistaken handle (arrivals id) := fun arrival listed =>
      unmistaken arrival (List.mem_append_left _ listed)
    have later := ih (counts_turn arrivals nanos counts early) fun arrival listed =>
      unmistaken arrival (List.mem_append_right _ listed)
    rw [receipts, Receipt.through_append, counts.receipts early, later, Receipt.series_append,
      ← addressed_append]

namespace Stage

/-- The receipts that are handed out during a deed. -/
def receiptsIn (stage : Stage C M W) (deed : Deed C W) : List (Receipt C) :=
  match deed with
  | .tick arrivals nanos =>
    (Operation.opened stage).receipts arrivals nanos stage.fleet.visitOrder
  | deed => stage.fleet.receipts (deed.submissions stage.fleet)

/-- The receipts that are handed out in a course, from the first one on. -/
def receipts : Stage C M W → List (Deed C W) → List (Receipt C) := collect receiptsIn

theorem map_handle_receiptsIn (stage : Stage C M W) (deed : Deed C W) :
    (stage.receiptsIn deed).map (·.handle) = (deed.submissions stage.fleet).map (·.1) := by
  cases deed with
  | tick arrivals nanos => exact Round.map_handle_receipts ..
  | _ => exact Fleet.map_handle_receipts ..

theorem receiptsIn_of_counts {stage : Stage C M W} {handle : Submitter} {live : Bool} {count : Nat}
    (counts : stage.fleet.Counts handle live count) {deed : Deed C W}
    (unmistaken : Fleet.Unmistaken handle (deed.submissions stage.fleet)) :
    Receipt.through handle (stage.receiptsIn deed) =
      Receipt.series handle live count (addressed handle (deed.submissions stage.fleet)) := by
  cases deed with
  | tick arrivals nanos =>
    have begun : (Operation.opened stage).stage.fleet.Counts handle live count :=
      ⟨counts.held, counts.next⟩
    exact Round.receipts_of_counts arrivals nanos begun unmistaken
  | _ => exact counts.receipts unmistaken

/-- In a course commands are submitted only through handles that were given out before. -/
inductive Honest : List Submitter → Stage C M W → List (Deed C W) → Prop where
  | rest {issued : List Submitter} {stage : Stage C M W} : Honest issued stage []
  | step {issued : List Submitter} {stage : Stage C M W} {deed : Deed C W} {deeds : List (Deed C W)}
      (known : ∀ arrival ∈ deed.submissions stage.fleet, arrival.1 ∈ issued)
      (later : Honest (issued ++ stage.issuedIn deed) (stage.next deed) deeds) :
      Honest issued stage (deed :: deeds)

theorem Honest.left {issued : List Submitter} {stage : Stage C M W} {earlier later : List (Deed C W)}
    (honest : Honest issued stage (earlier ++ later)) : Honest issued stage earlier := by
  induction earlier generalizing issued stage with
  | nil => exact .rest
  | cons deed deeds ih =>
    cases honest with
    | step known further => exact .step known (ih further)

theorem Honest.mem_issued {issued : List Submitter} {stage : Stage C M W} {course : List (Deed C W)}
    (honest : Honest issued stage course) {receipt : Receipt C}
    (listed : receipt ∈ stage.receipts course) : receipt.handle ∈ issued ++ stage.issued course := by
  induction honest with
  | rest => cases listed
  | @step issued stage deed deeds known later ih =>
    have split : stage.issued (deed :: deeds) =
        stage.issuedIn deed ++ (stage.next deed).issued deeds := rfl
    rw [split, ← List.append_assoc]
    rcases List.mem_append.mp listed with now | afterwards
    · have used : receipt.handle ∈ (deed.submissions stage.fleet).map (·.1) := by
        rw [← stage.map_handle_receiptsIn deed]
        exact List.mem_map_of_mem now
      obtain ⟨arrival, arrived, same⟩ := List.mem_map.mp used
      rw [← same]
      exact List.mem_append_left _ (List.mem_append_left _ (known arrival arrived))
    · exact ih afterwards

/-! ### The receipts of one handle -/

/-- A registration that is over accepts nothing any more. -/
theorem Booked.accepted_of_gone {stage last : Stage C M W} {course : List (Deed C W)}
    {handle : Submitter} (booked : stage.Booked) (led : stage.Leads course last)
    (gone : stage.fleet.holder? handle = none)
    (begun : handle.registration < stage.fleet.registrations) :
    stage.accepted handle course = [] := by
  induction led with
  | rest stage => rfl
  | @step stage last deed deeds whole led ih =>
    have goneNext := booked.gone (.step whole (.rest _)) gone begun
    have begunNext := Nat.lt_of_lt_of_le begun (stage.fleet_next deed whole).2.2
    have later : (stage.next deed).accepted handle deeds = [] :=
      ih (booked.next whole) goneNext begunNext
    rw [accepted, collect, acceptedIn, gone]
    exact later

namespace Roll

variable {stage last : Stage C M W} {issued : List Submitter} {course : List (Deed C W)}
  {handle : Submitter}

/-- A handle that was given out counts its accepted submissions and then the dropped ones. -/
theorem receipts_of_listed (roll : stage.Roll issued) (led : stage.Leads course last)
    (honest : Honest issued stage course) (listed : handle ∈ issued) {live : Bool} {count : Nat}
    (counts : stage.fleet.Counts handle live count) :
    ∃ dropped, Receipt.through handle (stage.receipts course) =
      Receipt.series handle true count (stage.accepted handle course) ++
        Receipt.series handle false (count + (stage.accepted handle course).length) dropped := by
  induction led generalizing issued live count with
  | rest stage => exact ⟨[], rfl⟩
  | @step stage last deed deeds whole led ih =>
    cases honest with
    | step known later =>
      obtain ⟨now, countsNext⟩ := roll.counts_next whole listed known counts
      obtain ⟨dropped, rest⟩ :=
        ih (roll.next whole) later (List.mem_append_left _ listed) countsNext
      have first := receiptsIn_of_counts counts (roll.unmistaken listed known)
      have split : Receipt.through handle (stage.receipts (deed :: deeds)) =
          Receipt.through handle (stage.receiptsIn deed) ++
            Receipt.through handle ((stage.next deed).receipts deeds) :=
        Receipt.through_append ..
      rw [split, first, rest]
      have held := counts.held
      cases live with
      | true =>
        have acceptedNow : stage.accepted handle (deed :: deeds) =
            addressed handle (deed.submissions stage.fleet) ++
              (stage.next deed).accepted handle deeds := by
          rw [accepted, collect, acceptedIn, if_pos held]
        refine ⟨dropped, ?_⟩
        rw [acceptedNow, List.length_append, ← List.append_assoc, Receipt.series_append,
          Nat.add_assoc]
      | false =>
        have gone : stage.fleet.holder? handle = none := by
          rw [← Option.not_isSome_iff_eq_none, held]
          exact Bool.false_ne_true
        have none := roll.booked.accepted_of_gone (.step whole led) gone (roll.older listed)
        have noneLater : (stage.next deed).accepted handle deeds = [] := by
          rw [accepted, collect] at none
          exact (List.append_eq_nil_iff.mp none).2
        refine ⟨addressed handle (deed.submissions stage.fleet) ++ dropped, ?_⟩
        rw [none, noneLater, ← Receipt.series_append]
        rfl

/-- The same holds of a handle that is given out later, or never. -/
theorem receipts_of_unlisted (roll : stage.Roll issued) (led : stage.Leads course last)
    (honest : Honest issued stage course) (unlisted : handle ∉ issued) :
    ∃ dropped, Receipt.through handle (stage.receipts course) =
      Receipt.series handle true 0 (stage.accepted handle course) ++
        Receipt.series handle false (stage.accepted handle course).length dropped := by
  induction led generalizing issued with
  | rest stage => exact ⟨[], rfl⟩
  | @step stage last deed deeds whole led ih =>
    cases honest with
    | step known later =>
      have unused : handle ∉ (deed.submissions stage.fleet).map (·.1) := by
        intro used
        obtain ⟨arrival, arrived, same⟩ := List.mem_map.mp used
        rw [← same] at unlisted
        exact unlisted (known arrival arrived)
      have silent : Receipt.through handle (stage.receiptsIn deed) = [] := by
        rw [← stage.map_handle_receiptsIn deed] at unused
        exact Receipt.through_of_absent unused
      have nothing : acceptedIn handle stage deed = [] := by
        have unaddressed : addressed handle (deed.submissions stage.fleet) = [] := by
          rw [addressed, List.map_eq_nil_iff, List.filter_eq_nil_iff]
          intro arrival arrived own
          have same : arrival.1 = handle := of_decide_eq_true own
          rw [← same] at unused
          exact unused (List.mem_map_of_mem arrived)
        rw [acceptedIn, unaddressed, ite_self]
      have split : Receipt.through handle (stage.receipts (deed :: deeds)) =
          Receipt.through handle ((stage.next deed).receipts deeds) := by
        rw [receipts, collect, Receipt.through_append, silent]
        rfl
      have acceptedLater : stage.accepted handle (deed :: deeds) =
          (stage.next deed).accepted handle deeds := by
        rw [accepted, collect, nothing]
        rfl
      rw [split, acceptedLater]
      by_cases given : handle ∈ stage.issuedIn deed
      · obtain ⟨dropped, all⟩ := (roll.next whole).receipts_of_listed led later
          (List.mem_append_right _ given) (counts_issued given)
        rw [Nat.zero_add] at all
        exact ⟨dropped, all⟩
      · refine ih (roll.next whole) later fun listed => ?_
        rcases List.mem_append.mp listed with before | now
        · exact unlisted before
        · exact given now

/-- If a turtle is registered only once, all that is heard of it is published for that registration. -/
theorem heard_of_sole (roll : stage.Roll issued) (led : stage.Leads course last)
    (sole : ∀ other ∈ issued ++ stage.issued course, other.turtleId = handle.turtleId →
      other = handle) :
    heard handle.turtleId last.signals =
      heard handle.turtleId stage.signals ++ stage.published handle course := by
  induction led generalizing issued with
  | rest stage => exact (List.append_nil _).symm
  | @step stage last deed deeds whole led ih =>
    have later := ih (roll.next whole) (by rwa [List.append_assoc])
    obtain ⟨answers, _, heardNext⟩ := stage.fate_next deed whole handle.turtleId
      fun member found => roll.booked.audible found
    have now : publishedIn handle stage deed = answers := by
      rcases found : stage.fleet.members.get? handle.turtleId with _ | member
      · have gone := Fleet.holder?_of_missing found
        have silent : answers = [] := by
          rw [heard_next_of_missing whole found] at heardNext
          exact List.self_eq_append_right.mp heardNext
        rw [publishedIn, gone, silent]
        rfl
      · have held := Fleet.holder?_of_handle found
        have own := sole _ (List.mem_append_left _ (roll.listed _ _ held)) rfl
        rw [own] at held
        exact publishedIn_of_heard held heardNext
    have split : stage.published handle (deed :: deeds) =
        publishedIn handle stage deed ++ (stage.next deed).published handle deeds := rfl
    rw [later, heardNext, split, now, List.append_assoc]

end Roll

omit [Command C] [World W] [WorkMonitor M] in
/-- The responses go out in the order of the accepted commands. -/
theorem Account.published_in_order {stage : Stage C M W} {handle : Submitter} {accepted : List C}
    {published : List Response} (account : Account stage handle accepted published) :
    published.map (·.id) <+: (numbered 0 accepted).map (·.id) := by
  cases account with
  | inForce held known ledger =>
    rw [← ledger.numbers, List.map_append, List.append_assoc]
    exact List.prefix_append _ _
  | ended gone known settled =>
    exact ⟨[], (List.append_nil _).trans settled⟩

/-! ### Numbers are never reused -/

/-- The receipts of a registration are unmistakable, as long as its numbers do not run out. -/
theorem receipts_unmistakable {start last : Stage C M W} {course : List (Deed C W)}
    (opening : start.Opening) (led : start.Leads course last) (honest : Honest [] start course)
    {handle : Submitter} (few : (Receipt.through handle (start.receipts course)).length < word64) :
    Receipt.Unmistakable (Receipt.through handle (start.receipts course))
      (start.published handle course) := by
  have account : Account last handle (start.accepted handle course)
      (start.published handle course) :=
    .of_leads led (fun handle => .of_opening opening handle) handle
  obtain ⟨dropped, all⟩ := (Roll.of_opening opening).receipts_of_unlisted led honest
    (List.not_mem_nil : handle ∉ ([] : List Submitter))
  exact .of_series all few account.published_in_order

/-- Under a single registration no number is ever reused. If a turtle is registered only once, this
holds of all submissions for the turtle and of all that is heard on its stream. -/
theorem numbers_are_never_reused {start last : Stage C M W} {course : List (Deed C W)}
    (opening : start.Opening) (led : start.Leads course last) (honest : Honest [] start course)
    (few : (start.receipts course).length < word64) :
    (∀ handle, Receipt.Unmistakable (Receipt.through handle (start.receipts course))
      (start.published handle course)) ∧
    ∀ id, ((start.issued course).filter (·.turtleId = id)).length ≤ 1 →
      Receipt.Unmistakable ((start.receipts course).filter (·.handle.turtleId = id))
        (heard id last.signals) := by
  have roll : start.Roll [] := .of_opening opening
  have one (handle : Submitter) : Receipt.Unmistakable
      (Receipt.through handle (start.receipts course)) (start.published handle course) :=
    receipts_unmistakable opening led honest
      (Nat.lt_of_le_of_lt (List.length_filter_le ..) few)
  refine ⟨one, fun id few => ?_⟩
  obtain ⟨handle, named, sole⟩ : ∃ handle : Submitter, handle.turtleId = id ∧
      ∀ other ∈ start.issued course, other.turtleId = id → other = handle := by
    have listed {other : Submitter} (given : other ∈ start.issued course)
        (own : other.turtleId = id) : other ∈ (start.issued course).filter (·.turtleId = id) :=
      List.mem_filter.mpr ⟨given, decide_eq_true own⟩
    rcases given : (start.issued course).filter (·.turtleId = id) with _ | ⟨handle, others⟩
    · refine ⟨⟨id, 0⟩, rfl, fun other issued own => ?_⟩
      have strange := listed issued own
      rw [given] at strange
      cases strange
    · have alone : others = [] := by
        rw [given, List.length_cons] at few
        exact List.length_eq_zero_iff.mp (by omega)
      subst alone
      have own : handle ∈ (start.issued course).filter (·.turtleId = id) := by
        rw [given]
        exact List.mem_singleton_self handle
      refine ⟨handle, of_decide_eq_true (List.mem_filter.mp own).2, fun other issued same => ?_⟩
      have one := listed issued same
      rw [given] at one
      exact List.mem_singleton.mp one
  subst named
  have sameReceipts : (start.receipts course).filter (·.handle.turtleId = handle.turtleId) =
      Receipt.through handle (start.receipts course) := by
    apply List.filter_congr
    intro receipt listed
    have issued := honest.mem_issued listed
    by_cases own : receipt.handle = handle
    · simp [own]
    · have apart : receipt.handle.turtleId ≠ handle.turtleId := fun same =>
        own (sole receipt.handle issued same)
      simp [own, apart]
  have allHeard := roll.heard_of_sole led sole
  rw [opening.signals, heard_nil, List.nil_append] at allHeard
  rw [sameReceipts, allHeard]
  exact one handle

/-- Two commands of a turtle that is removed, and one that is submitted too late. -/
def lateCourse : List (Deed TurtleCommand MemoryWorld) :=
  [.register Sample.scout, .submit "scout" .getFuelLevel, Sample.tick,
    .submitVia ⟨"scout", 0⟩ (.select 3), .remove "scout", .submitVia ⟨"scout", 0⟩ .getFuelLevel]

theorem numbers_are_never_reused_lateCourse :
    Sample.stage.Opening ∧ Sample.stage.Leads lateCourse (Sample.stage.run lateCourse) ∧
      Honest [] Sample.stage lateCourse ∧ (Sample.stage.receipts lateCourse).length < word64 ∧
      ((Sample.stage.issued lateCourse).filter (·.turtleId = "scout")).length ≤ 1 ∧
      Receipt.Unmistakable
        [⟨⟨"scout", 0⟩, ⟨1, .getFuelLevel⟩, true⟩, ⟨⟨"scout", 0⟩, ⟨2, .select 3⟩, true⟩,
          ⟨⟨"scout", 0⟩, ⟨3, TurtleCommand.getFuelLevel⟩, false⟩]
        (heard "scout" (Sample.stage.run lateCourse).signals) ∧
      (heard "scout" (Sample.stage.run lateCourse).signals).map (·.id) = [1, 2] := by
  have honest : Honest [] Sample.stage lateCourse := by
    refine .step nofun (.step ?_ (.step nofun (.step ?_ (.step nofun (.step ?_ .rest)))))
    all_goals
      intro arrival submitted
      rw [List.mem_singleton.mp submitted]
      exact List.mem_singleton_self _
  have few : (Sample.stage.receipts lateCourse).length < word64 := by decide +kernel
  have sole : ((Sample.stage.issued lateCourse).filter (·.turtleId = "scout")).length ≤ 1 := by
    decide +kernel
  have never := numbers_are_never_reused Sample.opening (leads_run _ lateCourse) honest few
  exact ⟨Sample.opening, leads_run _ _, honest, few, sole, never.2 "scout" sole, by rfl⟩

/-- A turtle that is registered again, with a command that is submitted through the old handle. -/
def returnCourse : List (Deed TurtleCommand MemoryWorld) :=
  [.register Sample.scout, .submitVia ⟨"scout", 0⟩ .getFuelLevel, Sample.tick, .remove "scout",
    .register Sample.scout, .submitVia ⟨"scout", 0⟩ .getFuelLevel,
    .submitVia ⟨"scout", 1⟩ .getFuelLevel, .submitVia ⟨"scout", 1⟩ (.select 3), Sample.tick,
    Sample.tick]

/-- When a turtle is registered again its numbers begin anew: the same ones are handed out and go out
a second time, also that of the command that was dropped. -/
theorem numbers_begin_anew_returnCourse :
    Sample.stage.Opening ∧ Sample.stage.Leads returnCourse (Sample.stage.run returnCourse) ∧
      Honest [] Sample.stage returnCourse ∧
      Sample.stage.receipts returnCourse =
        [⟨⟨"scout", 0⟩, ⟨1, .getFuelLevel⟩, true⟩, ⟨⟨"scout", 0⟩, ⟨2, .getFuelLevel⟩, false⟩,
          ⟨⟨"scout", 1⟩, ⟨1, .getFuelLevel⟩, true⟩, ⟨⟨"scout", 1⟩, ⟨2, .select 3⟩, true⟩] ∧
      (heard "scout" (Sample.stage.run returnCourse).signals).map (·.id) = [1, 1, 2] ∧
      ¬ Receipt.Unmistakable
        ((Sample.stage.receipts returnCourse).filter (·.handle.turtleId = "scout"))
        (heard "scout" (Sample.stage.run returnCourse).signals) := by
  have honest : Honest [] Sample.stage returnCourse := by
    refine .step nofun (.step ?_ (.step nofun (.step nofun (.step nofun (.step ?_ (.step ?_
      (.step ?_ (.step nofun (.step nofun .rest)))))))))
    all_goals
      intro arrival submitted
      rw [List.mem_singleton.mp submitted]
      decide +kernel
  have ids : (heard "scout" (Sample.stage.run returnCourse).signals).map (·.id) = [1, 1, 2] := by rfl
  refine ⟨Sample.opening, leads_run _ _, honest, by rfl, ids, fun unmistakable => ?_⟩
  have once := unmistakable.once
  rw [ids] at once
  exact absurd once (by decide)

end Stage

end TurtleFleet
