import TurtleFleet.Proofs.Course
import TurtleFleet.Proofs.Turns

/-! The fate of one turtle under a single deed: which of its commands come in, which of its responses
go out, which command it starts, and what becomes of its member. Deeds for other turtles leave it as
it is. -/

namespace TurtleFleet

variable {C M W : Type}

variable [Command C] [World W] [WorkMonitor M]

namespace Stage

/-- The commands of a turtle that a deed starts. -/
def started (id : TurtleId) (stage : Stage C M W) : Deed C W → List ExecutedCommand
  | .tick arrivals nanos =>
    match Operation.tickAmid arrivals nanos stage with
    | .ok report _ => report.startedFor id
    | .error .. => []
  | _ => []

/-- What can become of a turtle under a deed, with the commands that come in for it, its responses
that go out and the commands that it starts. -/
inductive Fate (stage : Stage C M W) (deed : Deed C W) (id : TurtleId) :
    Option (Member C) → List C → List Response → List ExecutedCommand → Option (Member C) →
      Prop where
  | absent : Fate stage deed id none [] [] [] none
  | enrolled {turtle : Turtle}
      (fresh : turtle.animation = .idle stage.fleet.settings.animationDuration)
      (counted : (stage.next deed).fleet.registrations = stage.fleet.registrations + 1) :
      Fate stage deed id none [] [] []
        (some { registration := stage.fleet.registrations, turtle, queue := {} })
  | tookIn (untimed : deed.isTick = false) (member : Member C) (commands : List C) :
      Fate stage deed id (some member) commands [] [] (some (member.takeIn commands))
  /-- The animation is left as it is. -/
  | refitted (untimed : deed.isTick = false) (member : Member C) {turtle : Turtle}
      (same : turtle.animation = member.turtle.animation) :
      Fate stage deed id (some member) [] [] [] (some { member with turtle })
  | ticked {member served : Member C} {early late : List C} {movers : List TurtleId}
      {answers : List Response} {executed : List ExecutedCommand} {world left : W}
      (timed : deed.isTick = true)
      (serves : Round.Serves
        { stage.fleet.context with time := cappedAdd stage.fleet.time 1 } movers id
        (member.takeIn early) world answers executed served left) :
      Fate stage deed id (some member) (early ++ late) answers executed (some (served.takeIn late))
  | released (untimed : deed.isTick = false) (member : Member C) :
      Fate stage deed id (some member) []
        (member.pending.toList ++ member.queue.entries.map fun entry =>
          Response.failure entry.id turtleRemoved)
        [] none

theorem Fate.kept (stage : Stage C M W) {deed : Deed C W} (untimed : deed.isTick = false)
    (id : TurtleId) (before : Option (Member C)) : Fate stage deed id before [] [] [] before := by
  cases before with
  | none => exact .absent
  | some member => exact .tookIn untimed member []

/-- The commands that come in for the registration of a turtle that is in force. -/
def arriving (id : TurtleId) (stage : Stage C M W) (deed : Deed C W) : List C :=
  match stage.fleet.members.get? id with
  | some member => addressed (member.handle id) (deed.submissions stage.fleet)
  | none => []

/-- A turtle meets one of the fates above, and just its answers are heard of it. -/
def Fares (stage : Stage C M W) (deed : Deed C W) (id : TurtleId) : Prop :=
  ∃ answers, Fate stage deed id (stage.fleet.members.get? id) (stage.arriving id deed) answers
      (stage.started id deed) ((stage.next deed).fleet.members.get? id) ∧
    heard id (stage.next deed).signals = heard id stage.signals ++ answers

end Stage

omit [Command C] [World W] [WorkMonitor M] in
theorem Quiet.heard {signals : List Signal} (quiet : Quiet signals) (turtle : TurtleId) :
    heard turtle signals = [] := by
  apply List.filterMap_eq_nil_iff.mpr
  intro signal member
  obtain ⟨effect, same⟩ := quiet signal member
  rw [same]
  rfl

namespace Stage

theorem started_of_untimed {stage : Stage C M W} {deed : Deed C W} (untimed : deed.isTick = false)
    (id : TurtleId) : stage.started id deed = [] := by
  cases deed with
  | tick arrivals nanos => cases untimed
  | _ => rfl

theorem next_of_ticked {stage after : Stage C M W} {arrivals : TurtleId → List (Submitter × C)}
    {nanos : TurtleId → Nat} {report : TickReport}
    (ticked : Operation.tickAmid arrivals nanos stage = .ok report after) :
    stage.next (.tick arrivals nanos) = after := by
  simp only [next, Stage.after, Deed.perform, bind_of_ok ticked]
  rfl

theorem next_tick (stage : Stage C M W) (arrivals : TurtleId → List (Submitter × C))
    (nanos : TurtleId → Nat) :
    ∃ cursor, stage.next (.tick arrivals nanos) =
      { (Operation.tickRound arrivals nanos stage).stage with
        fleet := { (Operation.tickRound arrivals nanos stage).stage.fleet with cursor } } := by
  obtain ⟨cursor, ended⟩ := Operation.tickAmid_eq arrivals nanos stage
  exact ⟨cursor, next_of_ticked ended⟩

/-- Nothing breaks off a tick. -/
theorem whole_tick (stage : Stage C M W) (arrivals : TurtleId → List (Submitter × C))
    (nanos : TurtleId → Nat) : ¬ stage.Breaks (Deed.tick (W := W) arrivals nanos).perform := by
  rintro ⟨fault, left, broken⟩
  obtain ⟨cursor, ticked⟩ := Operation.tickAmid_eq arrivals nanos stage
  simp only [Deed.perform, bind_of_ok ticked] at broken
  cases broken

theorem LastsTicks.next {holds : Stage C M W → Prop} (lasts : LastsTicks holds)
    {stage : Stage C M W} (fit : holds stage) (arrivals : TurtleId → List (Submitter × C))
    (nanos : TurtleId → Nat) : holds (stage.next (.tick arrivals nanos)) := by
  obtain ⟨cursor, after⟩ := stage.next_tick arrivals nanos
  have begun : holds (Operation.opened stage).stage :=
    lasts.paced (cappedAdd stage.fleet.time 1) (WorkMonitor.beginTick stage.fleet.monitor)
      stage.fleet.cursor fit
  have turned : holds (Operation.tickRound arrivals nanos stage).stage :=
    lasts.turns arrivals nanos begun stage.fleet.visitOrder
  rw [after]
  exact lasts.paced _ _ cursor turned

/-- What the deeds do to the fleet as a whole: registrations are counted up, and what commands can
look up stays as it is, apart from the time. -/
theorem fleet_next (stage : Stage C M W) (deed : Deed C W) (whole : ¬ stage.Breaks deed.perform) :
    (stage.next deed).fleet.settings = stage.fleet.settings ∧
      (stage.next deed).fleet.catalog = stage.fleet.catalog ∧
      stage.fleet.registrations ≤ (stage.next deed).fleet.registrations := by
  have does := stage.does_next deed whole
  generalize left : stage.next deed = after at does ⊢
  cases does with
  | submitted submitter command =>
    obtain ⟨members, retired, same⟩ := stage.fleet.submitVia_eq submitter command
    rw [same]
    exact ⟨rfl, rfl, Nat.le_refl _⟩
  | @submittedFor id member command found =>
    obtain ⟨members, retired, same⟩ := stage.fleet.submitVia_eq ⟨id, member.registration⟩ command
    rw [same]
    exact ⟨rfl, rfl, Nat.le_refl _⟩
  | ticked arrivals nanos =>
    obtain ⟨cursor, ended⟩ := stage.next_tick arrivals nanos
    obtain ⟨members, monitor, retired, same⟩ := Operation.tickRound_fleet_eq arrivals nanos stage
    rw [← left, ended, same]
    exact ⟨rfl, rfl, Nat.le_refl _⟩
  | enrolled absent spawned kind quiet => exact ⟨rfl, rfl, Nat.le_succ _⟩
  | declined silent untimed lasting => exact ⟨rfl, rfl, Nat.le_refl _⟩
  | unremoved missing => exact ⟨rfl, rfl, Nat.le_refl _⟩
  | unspawned absent spawned quiet => exact ⟨rfl, rfl, Nat.le_refl _⟩
  | discarded absent spawned foreign removed quiet => exact ⟨rfl, rfl, Nat.le_refl _⟩
  | upgraded side upgrade found => exact ⟨rfl, rfl, Nat.le_refl _⟩
  | attached found apart => exact ⟨rfl, rfl, Nat.le_refl _⟩
  | detached found joined => exact ⟨rfl, rfl, Nat.le_refl _⟩
  | removed found answered quiet => exact ⟨rfl, rfl, Nat.le_refl _⟩
  | reshaped change => exact ⟨rfl, rfl, Nat.le_refl _⟩

theorem registrations_next (stage : Stage C M W) {deed : Deed C W}
    (whole : ¬ stage.Breaks deed.perform) (other : deed.isRegistration = false) :
    (stage.next deed).fleet.registrations = stage.fleet.registrations := by
  have does := stage.does_next deed whole
  generalize left : stage.next deed = after at does ⊢
  cases does with
  | submitted submitter command =>
    obtain ⟨members, retired, same⟩ := stage.fleet.submitVia_eq submitter command
    rw [same]
  | @submittedFor id member command found =>
    obtain ⟨members, retired, same⟩ := stage.fleet.submitVia_eq ⟨id, member.registration⟩ command
    rw [same]
  | ticked arrivals nanos =>
    obtain ⟨cursor, ended⟩ := stage.next_tick arrivals nanos
    obtain ⟨members, monitor, retired, same⟩ := Operation.tickRound_fleet_eq arrivals nanos stage
    rw [← left, ended, same]
  | unspawned absent spawned quiet => cases other
  | discarded absent spawned foreign removed quiet => cases other
  | enrolled absent spawned kind quiet => cases other
  | declined silent untimed lasting => rfl
  | unremoved missing => rfl
  | upgraded side upgrade found => rfl
  | attached found apart => rfl
  | detached found joined => rfl
  | removed found answered quiet => rfl
  | reshaped change => rfl

theorem fate_of_kept {stage : Stage C M W} {deed : Deed C W} {id : TurtleId}
    (untimed : deed.isTick = false) (silent : deed.submissions stage.fleet = [])
    (kept : (stage.next deed).fleet.members.get? id = stage.fleet.members.get? id)
    (unheard : heard id (stage.next deed).signals = heard id stage.signals) :
    stage.Fares deed id := by
  have nothing : stage.arriving id deed = [] := by
    unfold arriving
    split
    · rw [silent, addressed_nil]
    · rfl
  refine ⟨[], ?_, ?_⟩
  · rw [nothing, started_of_untimed untimed, kept]
    exact .kept stage untimed id _
  · rw [unheard, List.append_nil]

/-- Changing the turtle of a member, but not its animation, refits that turtle only. -/
theorem fate_of_refit {stage : Stage C M W} {deed : Deed C W} {target : TurtleId}
    {member : Member C} {turtle : Turtle} {signals : List Signal}
    (after : (stage.next deed).fleet = stage.fleet.setMember target { member with turtle })
    (heardAfter : (stage.next deed).signals = stage.signals ++ signals)
    (found : stage.fleet.members.get? target = some member)
    (same : turtle.animation = member.turtle.animation) (quiet : Quiet signals)
    (untimed : deed.isTick = false) (silent : deed.submissions stage.fleet = []) {id : TurtleId} :
    stage.Fares deed id := by
  have unheard : heard id (stage.next deed).signals = heard id stage.signals := by
    rw [heardAfter, heard_append, quiet.heard, List.append_nil]
  by_cases own : id = target
  · have nothing : stage.arriving id deed = [] := by
      rw [arriving, own, found, silent]
      rfl
    refine ⟨[], ?_, ?_⟩
    · rw [nothing, started_of_untimed untimed, own, found, after, Fleet.setMember,
        Keyed.get?_insert_self]
      exact .refitted untimed member same
    · rw [unheard, List.append_nil]
  · refine fate_of_kept untimed silent ?_ unheard
    rw [after, Fleet.setMember, Keyed.get?_insert_of_ne _ _ own]

theorem fate_of_submissions {stage : Stage C M W} {deed : Deed C W} {submitter : Submitter}
    {command : C}
    (after : stage.next deed =
      { stage with fleet := (stage.fleet.submitVia submitter command).2 })
    (untimed : deed.isTick = false)
    (submissions : deed.submissions stage.fleet = [(submitter, command)]) {id : TurtleId} :
    stage.Fares deed id := by
  refine ⟨[], ?_, ?_⟩
  · rw [started_of_untimed untimed, after, Fleet.get?_submitVia, arriving, submissions]
    cases stage.fleet.members.get? id with
    | none => exact .absent
    | some member => exact .tookIn untimed member _
  · rw [after, List.append_nil]

theorem fate_of_tick {stage : Stage C M W} (arrivals : TurtleId → List (Submitter × C))
    (nanos : TurtleId → Nat) {id : TurtleId}
    (audible : ∀ member, stage.fleet.members.get? id = some member → member.Audible) :
    stage.Fares (.tick arrivals nanos) id := by
  obtain ⟨cursor, after⟩ := stage.next_tick arrivals nanos
  have started : stage.started id (.tick arrivals nanos) =
      (Operation.tickRound arrivals nanos stage).report.startedFor id := by
    obtain ⟨_, ended⟩ := Operation.tickAmid_eq arrivals nanos stage
    rw [Stage.started, ended]
  rw [Fares, started, after]
  rcases found : stage.fleet.members.get? id with _ | member
  · obtain ⟨missing, silent, still⟩ := Operation.tickRound_missing arrivals nanos found
    have nothing : stage.arriving id (.tick arrivals nanos) = [] := by
      rw [arriving, found]
    refine ⟨[], ?_, ?_⟩
    · rw [missing, still, nothing]
      exact .absent
    · rw [silent, List.append_nil]
  · obtain ⟨early, late, movers, answers, executed, served, _, _, split, serves, foundAfter,
      heardAfter, startedAfter⟩ :=
      Operation.tickRound_self arrivals nanos found (audible member found)
    have arriving : stage.arriving id (.tick arrivals nanos) = early ++ late := by
      rw [split, Stage.arriving, found]
      rfl
    refine ⟨answers, ?_, heardAfter⟩
    rw [foundAfter, startedAfter, arriving]
    exact .ticked rfl serves

/-- A turtle that is removed answers all that it still owes; the others hear nothing of it. -/
theorem fate_of_removal {stage : Stage C M W} {target : TurtleId} {member : Member C}
    {news : List Signal} (found : stage.fleet.members.get? target = some member)
    (after : (stage.next (.remove target)).fleet = stage.fleet.release target member)
    (heardAfter : (stage.next (.remove target)).signals = stage.signals ++ news ++
      ((member.pending.toList ++ member.queue.entries.map fun entry =>
        Response.failure entry.id turtleRemoved).map fun response =>
          .published (response.toEvent target)) ++ [.closed target])
    (quiet : Quiet news) {id : TurtleId}
    (audible : ∀ member, stage.fleet.members.get? id = some member → member.Audible) :
    stage.Fares (.remove target) id := by
  have left : heard id (stage.next (.remove target)).signals = heard id stage.signals ++
      heard id ((member.pending.toList ++ member.queue.entries.map fun entry =>
        Response.failure entry.id turtleRemoved).map fun response =>
          .published (response.toEvent target)) := by
    rw [heardAfter, heard_append, heard_append, heard_append, quiet.heard, List.append_nil]
    exact List.append_nil _
  by_cases own : id = target
  · subst own
    have genuine : ∀ response ∈ member.pending.toList ++ member.queue.entries.map (fun entry =>
        Response.failure entry.id turtleRemoved), response.Genuine := by
      intro response listed
      rcases List.mem_append.mp listed with held | failed
      · exact (audible member found).held response (Option.mem_toList.mp held)
      · obtain ⟨entry, queued, same⟩ := List.mem_map.mp failed
        rw [← same]
        exact Response.genuine_failure ((audible member found).queued entry queued) _
    have nothing : stage.arriving id (.remove id) = [] := by
      rw [arriving, found]
      rfl
    refine ⟨_, ?_, left.trans (congrArg _ (heard_published genuine id))⟩
    rw [nothing, found, after, Fleet.release, Keyed.get?_erase, if_pos rfl]
    exact .released rfl member
  · refine fate_of_kept rfl rfl ?_ ?_
    · rw [after, Fleet.release, Keyed.get?_erase, if_neg own]
    · rw [left, heard_published_of_ne own, List.append_nil]

/-- What any deed that does not break off does to a turtle. -/
theorem fate_next (stage : Stage C M W) (deed : Deed C W) (whole : ¬ stage.Breaks deed.perform)
    (id : TurtleId)
    (audible : ∀ member, stage.fleet.members.get? id = some member → member.Audible) :
    stage.Fares deed id := by
  have does := stage.does_next deed whole
  generalize left : stage.next deed = after at does
  cases does with
  | declined silent untimed lasting =>
    exact fate_of_kept untimed silent (by rw [left]) (by rw [left])
  | submitted submitter command => exact fate_of_submissions left rfl rfl
  | submittedFor command found =>
    exact fate_of_submissions left rfl (by simp [Deed.submissions, found, Member.handle])
  | ticked arrivals nanos => exact fate_of_tick arrivals nanos audible
  | unremoved missing => exact fate_of_kept rfl rfl (by rw [left]) (by rw [left])
  | unspawned absent spawned quiet =>
    exact fate_of_kept rfl rfl (by rw [left])
      (by rw [left, heard_append, quiet.heard, List.append_nil])
  | discarded absent spawned foreign removed quiet =>
    exact fate_of_kept rfl rfl (by rw [left])
      (by rw [left, heard_append, quiet.heard, List.append_nil])
  | @enrolled spec _ _ _ absent spawned kind quiet =>
    by_cases own : id = spec.turtleId
    · refine ⟨[], ?_, ?_⟩
      · have nothing : stage.arriving id (.register spec) = [] := by
          rw [arriving, own, absent]
        rw [nothing, own, absent, left]
        simp only [Fleet.enroll, Fleet.setMember]
        have named : (Turtle.unplaced spec stage.fleet.settings).id = spec.turtleId := rfl
        rw [named, Keyed.get?_insert_self]
        exact .enrolled rfl (by rw [left]; rfl)
      · rw [left, heard_append, quiet.heard]
    · refine fate_of_kept rfl rfl ?_ (by rw [left, heard_append, quiet.heard, List.append_nil])
      rw [left]
      exact Keyed.get?_insert_of_ne _ _ own
  | upgraded side upgrade found =>
    exact fate_of_refit (congrArg Stage.fleet left) (congrArg Stage.signals left) found rfl
      (quiet_map _ _) rfl rfl
  | attached found apart =>
    exact fate_of_refit (congrArg Stage.fleet left) (by rw [left, List.append_nil]) found rfl
      (by simp [Quiet]) rfl rfl
  | detached found joined =>
    exact fate_of_refit (congrArg Stage.fleet left) (congrArg Stage.signals left) found rfl
      (quiet_map _ _) rfl rfl
  | removed found answered quiet =>
    exact fate_of_removal found (congrArg Stage.fleet left) (congrArg Stage.signals left) quiet audible
  | reshaped change => exact fate_of_kept rfl rfl (by rw [left]) (by rw [left])

theorem heard_next_of_missing {stage : Stage C M W} {deed : Deed C W}
    (whole : ¬ stage.Breaks deed.perform) {id : TurtleId}
    (missing : stage.fleet.members.get? id = none) :
    heard id (stage.next deed).signals = heard id stage.signals := by
  obtain ⟨answers, fate, heardNext⟩ := stage.fate_next deed whole id fun member found => by
    rw [missing] at found
    cases found
  have silent : answers = [] := by
    rw [missing] at fate
    generalize stage.arriving id deed = commands at fate
    generalize stage.started id deed = executed at fate
    generalize (stage.next deed).fleet.members.get? id = after at fate
    cases fate <;> rfl
  rw [heardNext, silent, List.append_nil]

theorem get?_next_remove (stage : Stage C M W) (id : TurtleId)
    (whole : ¬ stage.Breaks (Deed.remove (C := C) (W := W) id).perform) :
    (stage.next (.remove id)).fleet.members.get? id = none := by
  have does := stage.does_next (.remove id) whole
  generalize stage.next (.remove id) = after at does ⊢
  cases does with
  | declined silent untimed lasting => exact absurd rfl (lasting id)
  | unremoved missing => exact missing
  | removed found answered quiet => rw [Fleet.release, Keyed.get?_erase, if_pos rfl]

/-- Nothing but its removal ends the registration of a turtle. -/
theorem registration_next {stage : Stage C M W} {deed : Deed C W}
    (whole : ¬ stage.Breaks deed.perform) {id : TurtleId} {member : Member C}
    (found : stage.fleet.members.get? id = some member) :
    deed = .remove id ∨ ∃ now, (stage.next deed).fleet.members.get? id = some now ∧
      now.registration = member.registration := by
  have set {target : TurtleId} {known other : Member C}
      (there : stage.fleet.members.get? target = some known)
      (same : other.registration = known.registration) :
      ∃ now, (stage.fleet.setMember target other).members.get? id = some now ∧
        now.registration = member.registration := by
    by_cases own : id = target
    · subst own
      cases found.symm.trans there
      exact ⟨other, Keyed.get?_insert_self .., same⟩
    · exact ⟨member, (Keyed.get?_insert_of_ne _ _ own).trans found, rfl⟩
  have took (submitter : Submitter) (command : C) :
      ∃ now, (stage.fleet.submitVia submitter command).2.members.get? id = some now ∧
        now.registration = member.registration := by
    refine ⟨member.takeIn (addressed (member.handle id) [(submitter, command)]), ?_, rfl⟩
    rw [Fleet.get?_submitVia, found, Option.map_some]
  have does := stage.does_next deed whole
  generalize left : stage.next deed = after at does ⊢
  cases does with
  | declined silent untimed lasting => exact .inr ⟨member, found, rfl⟩
  | unremoved absent => exact .inr ⟨member, found, rfl⟩
  | submitted submitter command => exact .inr (took submitter command)
  | submittedFor command known => exact .inr (took _ command)
  | ticked arrivals nanos =>
    obtain ⟨cursor, ended⟩ := stage.next_tick arrivals nanos
    obtain ⟨early, late, reaches⟩ := Operation.exists_reaches arrivals nanos found
    obtain ⟨served, foundServed, same⟩ := Round.visit_registration reaches.found (nanos id)
    refine .inr ⟨served.takeIn late, ?_, same⟩
    rw [← left, ended]
    exact reaches.foundAfter.trans (by rw [foundServed, Option.map_some])
  | unspawned absent spawned quiet => exact .inr ⟨member, found, rfl⟩
  | discarded absent spawned foreign removed quiet => exact .inr ⟨member, found, rfl⟩
  | enrolled absent spawned kind quiet =>
    refine .inr ⟨member, ?_, rfl⟩
    rw [← found]
    apply Keyed.get?_insert_of_ne
    intro own
    rw [own] at found
    cases absent.symm.trans found
  | upgraded side upgrade known => exact .inr (set known rfl)
  | attached known apart => exact .inr (set known rfl)
  | detached known joined => exact .inr (set known rfl)
  | @removed target _ _ _ known answered quiet =>
    by_cases own : id = target
    · exact .inl (by rw [own])
    · refine .inr ⟨member, ?_, rfl⟩
      rw [← found, Fleet.release, Keyed.get?_erase, if_neg own]
  | reshaped change => exact .inr ⟨member, found, rfl⟩

end Stage

end TurtleFleet
