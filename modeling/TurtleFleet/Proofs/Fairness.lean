import TurtleFleet.Proofs.Deferral
import TurtleFleet.Proofs.Memory

/-! Fairness of the rounds: no turtle is deferred in as many ticks in a row as there are turtles,
whatever the others submit and however long their commands take. Every tick that defers a turtle
brings it nearer to the cursor, and the turtle at the cursor is never deferred. -/

namespace TurtleFleet

variable {C M W : Type}

/-- The deed neither registers nor removes a turtle. -/
def Deed.keepsRoster : Deed C W → Bool
  | register .. => false
  | remove .. => false
  | _ => true

/-- The command at the head of the queue of a turtle. -/
def Fleet.nextEntry? (fleet : Fleet C M) (id : TurtleId) : Option (QueueEntry C) :=
  (fleet.members.get? id).bind (·.queue.entries.head?)

theorem Fleet.Waits.nextEntry? {fleet : Fleet C M} {id : TurtleId} {entry : QueueEntry C}
    (waits : fleet.Waits id entry) : fleet.nextEntry? id = some entry := by
  obtain ⟨member, found, waits⟩ := waits
  rw [Fleet.nextEntry?, found]
  exact waits.next

/-- The report lists that the turtle started the command of an entry. -/
def TickReport.Starts [Command C] (report : TickReport) (id : TurtleId) (entry : QueueEntry C) :
    Prop :=
  ∃ success,
    { turtleId := id, id := entry.id, command := Command.name entry.command, success } ∈
      report.executed

/-! ### Deeds between ticks -/

/-- What matters to the rounds stays as it is. -/
structure Fleet.Rests (before after : Fleet C M) : Prop where
  turtleIds : after.turtleIds = before.turtleIds
  cursor : after.cursor = before.cursor
  monitor : after.monitor = before.monitor
  waits : ∀ id (entry : QueueEntry C), before.Waits id entry → after.Waits id entry

namespace Fleet.Rests

theorem refl (fleet : Fleet C M) : fleet.Rests fleet := ⟨rfl, rfl, rfl, fun _ _ waits => waits⟩

/-- The turtle is refitted, and goes on playing and waiting as before. -/
theorem setMember {fleet : Fleet C M} {id : TurtleId} {member refitted : Member C}
    (found : fleet.members.get? id = some member)
    (animation : refitted.turtle.animation = member.turtle.animation)
    (queue : refitted.queue = member.queue) : fleet.Rests (fleet.setMember id refitted) := by
  refine ⟨Keyed.keys_congr fun other => ?_, rfl, rfl, ?_⟩
  · rw [Fleet.setMember, Keyed.get?_insert]
    split
    · rename_i same
      rw [same, found]
      rfl
    · rfl
  · rintro other entry ⟨known, there, waits⟩
    by_cases same : other = id
    · subst same
      cases found.symm.trans there
      exact ⟨refitted, Keyed.get?_insert_self .., animation ▸ waits.still, queue ▸ waits.next⟩
    · exact ⟨known, (Keyed.get?_insert_of_ne _ _ same).trans there, waits⟩

theorem takeIn (fleet : Fleet C M) (arrivals : List (Submitter × C)) :
    fleet.Rests (fleet.takeIn arrivals) := by
  obtain ⟨members, retired, left⟩ := fleet.takeIn_eq arrivals
  refine ⟨Keyed.keys_congr fun id => ?_, ?_, ?_, fun id entry waits => waits.takeIn arrivals⟩
  · rw [get?_takeIn, Option.isSome_map]
  · rw [left]
  · rw [left]

theorem distance {before after : Fleet C M} (rests : before.Rests after) (id : TurtleId) :
    after.distance id = before.distance id := by
  rw [Fleet.distance, Fleet.distance, rests.turtleIds, rests.cursor]

end Fleet.Rests

namespace Stage

variable [Command C] [World W] [WorkMonitor M]

theorem rests_next (stage : Stage C M W) {deed : Deed C W} (whole : ¬ stage.Breaks deed.perform)
    (steady : deed.keepsRoster = true) (untimed : deed.isTick = false) :
    stage.fleet.Rests (stage.next deed).fleet := by
  have does := stage.does_next deed whole
  generalize stage.next deed = after at does ⊢
  cases does with
  | declined silent untimed lasting => exact .refl _
  | submitted submitter command => exact .takeIn stage.fleet [(submitter, command)]
  | @submittedFor id member command found =>
    exact .takeIn stage.fleet [(⟨id, member.registration⟩, command)]
  | upgraded side upgrade found => exact .setMember found rfl rfl
  | attached found apart => exact .setMember found rfl rfl
  | detached found joined => exact .setMember found rfl rfl
  | reshaped change => exact .refl _
  | ticked arrivals nanos => cases untimed
  | _ => cases steady

/-! ### Ticks -/

section

variable (stage : Stage C M W) (arrivals : TurtleId → List (Submitter × C)) (nanos : TurtleId → Nat)

theorem turtleIds_tick :
    (stage.next (.tick arrivals nanos)).fleet.turtleIds = stage.fleet.turtleIds :=
  Keyed.keys_congr (Round.turns_registered arrivals nanos (Operation.opened stage) _)

theorem monitor_tick : WorkMonitor.Leads stage.fleet.monitor
    (stage.next (.tick arrivals nanos)).fleet.monitor :=
  WorkMonitor.Leads.trans (.begun .rest)
    (Round.turns_monitor arrivals nanos (Operation.opened stage) stage.fleet.visitOrder)

/-- A tick that defers a turtle brings it nearer to the cursor. -/
theorem distance_tick {stage : Stage C M W} {arrivals : TurtleId → List (Submitter × C)}
    {nanos : TurtleId → Nat} (willing : WorkMonitor.Willing stage.fleet.monitor) {id : TurtleId}
    (listed : id ∈ (Operation.tickRound arrivals nanos stage).report.deferred) :
    (stage.next (.tick arrivals nanos)).fleet.distance id < stage.fleet.distance id := by
  have among := Operation.tickRound_deferred arrivals nanos
    (willing stage.fleet.monitor .rest)
  have moved : (stage.next (.tick arrivals nanos)).fleet.cursor =
      nextCursor stage.fleet.visitOrder
        (Operation.tickRound arrivals nanos stage).report.deferred := rfl
  have same := turtleIds_tick stage arrivals nanos
  generalize (Operation.tickRound arrivals nanos stage).report.deferred = deferred at *
  cases deferred with
  | nil => cases listed
  | cons first others => exact Fleet.distance_lt_of_cursor same moved among listed

end

def reported (stage : Stage C M W) : Deed C W → List TickReport
  | .tick arrivals nanos =>
    match Operation.tickAmid arrivals nanos stage with
    | .ok report _ => [report]
    | .error .. => []
  | _ => []

def reports (stage : Stage C M W) (course : List (Deed C W)) : List TickReport :=
  collect reported stage course

theorem reports_cons_tick (stage : Stage C M W) (arrivals : TurtleId → List (Submitter × C))
    (nanos : TurtleId → Nat) (course : List (Deed C W)) :
    stage.reports (.tick arrivals nanos :: course) =
      (Operation.tickRound arrivals nanos stage).report ::
        (stage.next (.tick arrivals nanos)).reports course := rfl

theorem reports_cons_untimed (stage : Stage C M W) {deed : Deed C W}
    (untimed : deed.isTick = false) (course : List (Deed C W)) :
    stage.reports (deed :: course) = (stage.next deed).reports course := by
  cases deed with
  | tick arrivals nanos => cases untimed
  | _ => rfl

/-! ### Courses -/

variable {stage last : Stage C M W} {course : List (Deed C W)}

theorem monitor_next (willing : WorkMonitor.Willing stage.fleet.monitor) {deed : Deed C W}
    (whole : ¬ stage.Breaks deed.perform) (steady : deed.keepsRoster = true) :
    WorkMonitor.Willing (stage.next deed).fleet.monitor := by
  rcases timed : deed.isTick with _ | _
  · rw [(stage.rests_next whole steady timed).monitor]
    exact willing
  · cases deed with
    | tick arrivals nanos => exact willing.later (stage.monitor_tick arrivals nanos)
    | _ => cases timed

theorem turtleIds_next {deed : Deed C W} (whole : ¬ stage.Breaks deed.perform)
    (steady : deed.keepsRoster = true) :
    (stage.next deed).fleet.turtleIds = stage.fleet.turtleIds := by
  rcases timed : deed.isTick with _ | _
  · exact (stage.rests_next whole steady timed).turtleIds
  · cases deed with
    | tick arrivals nanos => exact stage.turtleIds_tick arrivals nanos
    | _ => cases timed

/-- What does not change along a course that keeps the roster. -/
theorem steady_of_leads (led : stage.Leads course last)
    (willing : WorkMonitor.Willing stage.fleet.monitor)
    (steady : ∀ deed ∈ course, deed.keepsRoster = true) :
    WorkMonitor.Willing last.fleet.monitor ∧ last.fleet.turtleIds = stage.fleet.turtleIds := by
  induction led with
  | rest stage => exact ⟨willing, rfl⟩
  | @step stage last deed deeds whole later ih =>
    obtain ⟨now, others⟩ := List.forall_mem_cons.mp steady
    obtain ⟨still, same⟩ := ih (monitor_next willing whole now) others
    exact ⟨still, same.trans (turtleIds_next whole now)⟩

/-- A turtle is not deferred by more ticks in a row than its distance from the cursor tells. -/
theorem length_le_distance (led : stage.Leads course last)
    (willing : WorkMonitor.Willing stage.fleet.monitor)
    (steady : ∀ deed ∈ course, deed.keepsRoster = true) {id : TurtleId} {window : List TickReport}
    (first : window <+: stage.reports course) (denied : ∀ report ∈ window, id ∈ report.deferred) :
    window.length ≤ stage.fleet.distance id := by
  induction led generalizing window with
  | rest stage =>
    rw [List.prefix_nil.mp first]
    exact Nat.zero_le _
  | @step stage last deed deeds whole later ih =>
    obtain ⟨now, others⟩ := List.forall_mem_cons.mp steady
    have willingLater := monitor_next willing whole now
    rcases timed : deed.isTick with _ | _
    · rw [reports_cons_untimed stage timed] at first
      rw [← (stage.rests_next whole now timed).distance id]
      exact ih willingLater others first denied
    · cases deed with
      | tick arrivals nanos =>
        cases window with
        | nil => exact Nat.zero_le _
        | cons report window =>
          rw [reports_cons_tick, List.cons_prefix_cons] at first
          obtain ⟨same, first⟩ := first
          obtain ⟨deferred, denied⟩ := List.forall_mem_cons.mp denied
          have nearer := distance_tick willing (same ▸ deferred)
          exact Nat.lt_of_le_of_lt (ih willingLater others first denied) nearer
      | _ => cases timed

/-- The ticks in a row may be anywhere in the course. -/
theorem length_le_others (led : stage.Leads course last)
    (willing : WorkMonitor.Willing stage.fleet.monitor)
    (steady : ∀ deed ∈ course, deed.keepsRoster = true) {id : TurtleId} {window : List TickReport}
    (within : window <:+: stage.reports course)
    (denied : ∀ report ∈ window, id ∈ report.deferred) :
    window.length ≤ stage.fleet.turtleIds.length - 1 := by
  induction led with
  | rest stage =>
    rw [List.infix_nil.mp within]
    exact Nat.zero_le _
  | @step stage last deed deeds whole later ih =>
    obtain ⟨now, others⟩ := List.forall_mem_cons.mp steady
    have further (within : window <:+: (stage.next deed).reports deeds) :
        window.length ≤ stage.fleet.turtleIds.length - 1 := by
      rw [← turtleIds_next whole now]
      exact ih (monitor_next willing whole now) others within
    rcases timed : deed.isTick with _ | _
    · rw [reports_cons_untimed stage timed] at within
      exact further within
    · cases deed with
      | tick arrivals nanos =>
        rw [reports_cons_tick, List.infix_cons_iff, ← reports_cons_tick] at within
        rcases within with first | within
        · have bound := length_le_distance (.step whole later) willing steady first denied
          cases window with
          | nil => exact Nat.zero_le _
          | cons report window =>
            rw [reports_cons_tick, List.cons_prefix_cons] at first
            have deferred := first.1 ▸ denied report (List.mem_cons_self ..)
            have behind := Operation.tickRound_deferred arrivals nanos
              (willing stage.fleet.monitor .rest)
            have listed : id ∈ stage.fleet.turtleIds := (rotateTo_perm _ _).mem_iff.mp
              (List.mem_of_mem_tail (behind.subset deferred))
            have within := stage.fleet.distance_lt listed
            omega
        · exact further within
      | _ => cases timed

/-- A turtle that could start a command starts it in some tick, up to which it is deferred, or is
deferred throughout. -/
theorem starts_or_deferred (led : stage.Leads course last)
    (steady : ∀ deed ∈ course, deed.keepsRoster = true) {id : TurtleId} {entry : QueueEntry C}
    (waits : stage.fleet.Waits id entry) :
    (∃ early report others, stage.reports course = early ++ report :: others ∧
        (∀ report ∈ early, id ∈ report.deferred) ∧ report.Starts id entry) ∨
      ∀ report ∈ stage.reports course, id ∈ report.deferred := by
  induction led with
  | rest stage => exact .inr nofun
  | @step stage last deed deeds whole later ih =>
    obtain ⟨now, others⟩ := List.forall_mem_cons.mp steady
    rcases timed : deed.isTick with _ | _
    · rw [reports_cons_untimed stage timed]
      exact ih others ((stage.rests_next whole now timed).waits id entry waits)
    · cases deed with
      | tick arrivals nanos =>
        rw [reports_cons_tick]
        rcases Operation.tickRound_of_waits arrivals nanos waits with
          ⟨deferred, still⟩ | started
        · rcases ih others still with ⟨early, report, rest, split, denied, starts⟩ | denied
          · exact .inl ⟨_ :: early, report, rest, congrArg _ split,
              List.forall_mem_cons.mpr ⟨deferred, denied⟩, starts⟩
          · exact .inr (List.forall_mem_cons.mpr ⟨deferred, denied⟩)
        · exact .inl ⟨[], _, _, rfl, nofun, started⟩
      | _ => cases timed

/-- In every course of so many ticks or more in which no turtle comes or goes, the turtle starts the
command of the entry in one of the first so many, up to which it is deferred. -/
def StartsWithin (stage : Stage C M W) (id : TurtleId) (entry : QueueEntry C) (ticks : Nat) : Prop :=
  ∀ course last, stage.Leads course last → (∀ deed ∈ course, deed.keepsRoster = true) →
    ticks ≤ (stage.reports course).length →
    ∃ early report others, stage.reports course = early ++ report :: others ∧
      early.length < ticks ∧ (∀ report ∈ early, id ∈ report.deferred) ∧ report.Starts id entry

/-- A turtle that could start a command starts it within so many ticks, if it is nearer to the
cursor. -/
theorem startsWithin_of_waits (willing : WorkMonitor.Willing stage.fleet.monitor) {id : TurtleId}
    {entry : QueueEntry C} (waits : stage.fleet.Waits id entry) {ticks : Nat}
    (near : stage.fleet.distance id < ticks) : stage.StartsWithin id entry ticks := by
  intro course last led steady enough
  rcases starts_or_deferred led steady waits with
    ⟨early, report, others, split, denied, starts⟩ | denied
  · have few := length_le_distance led willing steady
      (split ▸ List.prefix_append early (report :: others)) denied
    exact ⟨early, report, others, split, Nat.lt_of_le_of_lt few near, denied, starts⟩
  · have few := length_le_distance led willing steady (List.prefix_refl _) denied
    omega

/-- No turtle starves. While turtles are neither registered nor removed, no turtle is deferred by as
many ticks in a row as there are turtles. Each tick that defers a turtle brings it nearer to the
cursor and leaves it its next command, which it then starts after fewer deferrals than there are
turtles. All this asks of the work monitor is that it allows a command at the beginning of each tick,
as every budget does that is not zero. -/
theorem no_turtle_starves {start last : Stage C M W} {course : List (Deed C W)}
    (willing : WorkMonitor.Willing start.fleet.monitor) (led : start.Leads course last)
    (steady : ∀ deed ∈ course, deed.keepsRoster = true) (id : TurtleId) :
    (∀ window, window <:+: start.reports course → (∀ report ∈ window, id ∈ report.deferred) →
      window.length ≤ start.fleet.turtleIds.length - 1) ∧
    (∀ arrivals nanos, ∀ report ∈ last.reported (.tick arrivals nanos), id ∈ report.deferred →
      (last.next (.tick arrivals nanos)).fleet.distance id < last.fleet.distance id ∧
      ∃ entry, (last.next (.tick arrivals nanos)).fleet.nextEntry? id = some entry ∧
        (last.next (.tick arrivals nanos)).StartsWithin id entry
          (start.fleet.turtleIds.length - 1)) ∧
    ∀ budget : WorkBudget, WorkMonitor.Willing budget ↔ budget.allowance ≠ some 0 := by
  obtain ⟨willingLast, same⟩ := steady_of_leads led willing steady
  refine ⟨fun window within denied => length_le_others led willing steady within denied,
    fun arrivals nanos report listed deferred => ?_, fun _ => WorkBudget.willing_iff⟩
  obtain rfl := List.mem_singleton.mp listed
  have nearer := distance_tick willingLast deferred
  obtain ⟨entry, waits⟩ := Operation.waits_of_tickRound_deferred deferred
  refine ⟨nearer, entry, Fleet.Waits.nextEntry? waits, ?_⟩
  have registered : id ∈ last.fleet.turtleIds := by
    obtain ⟨member, found, _⟩ := waits
    rw [← last.turtleIds_tick arrivals nanos, Fleet.mem_turtleIds]
    exact Option.isSome_of_eq_some found
  have bound := last.fleet.distance_lt registered
  rw [same] at bound
  exact startsWithin_of_waits (willingLast.later (last.monitor_tick arrivals nanos)) waits (by omega)

/-- Three turtles that share one nanosecond a tick. -/
def crew : Stage TurtleCommand WorkBudget MemoryWorld :=
  Stage.run { Sample.stage with fleet := { Sample.fleet with monitor := .ofNanos 1 } }
    [.register { Sample.scout with turtleId := "ada", pos := ⟨1, 64, 0⟩ },
      .register { Sample.scout with turtleId := "bob", pos := ⟨2, 64, 0⟩ },
      .register { Sample.scout with turtleId := "cid", pos := ⟨3, 64, 0⟩ }]

/-- Each of the turtles is asked for its fuel. -/
def fuelInquiry : List (Deed TurtleCommand MemoryWorld) :=
  [.submit "cid" .getFuelLevel, .submit "ada" .getFuelLevel, .submit "bob" .getFuelLevel]

/-- A tick in which every command takes a nanosecond. -/
def busyTick : Deed TurtleCommand MemoryWorld := .tick (fun _ => []) (fun _ => 1)

theorem no_turtle_starves_crew :
    crew.fleet.turtleIds = ["ada", "bob", "cid"] ∧
      (∀ deed ∈ fuelInquiry, deed.keepsRoster = true) ∧
      crew.Leads fuelInquiry (crew.run fuelInquiry) ∧
      ((crew.run fuelInquiry).reported busyTick).map (·.deferred) = [["bob", "cid"]] ∧
      (crew.run fuelInquiry).fleet.distance "cid" = 2 ∧
      ((crew.run fuelInquiry).next busyTick).fleet.distance "cid" = 1 ∧
      ((crew.run fuelInquiry).next busyTick).StartsWithin "cid"
        { id := 1, command := .getFuelLevel } 2 := by
  have willing : WorkMonitor.Willing crew.fleet.monitor := WorkBudget.willing_iff.mpr (by decide)
  have steady : ∀ deed ∈ fuelInquiry, deed.keepsRoster = true := by decide
  have three : crew.fleet.turtleIds = ["ada", "bob", "cid"] := by rfl
  obtain ⟨report, reported, deferred⟩ : ∃ report,
      (crew.run fuelInquiry).reported busyTick = [report] ∧
        report.deferred = ["bob", "cid"] := ⟨_, rfl, rfl⟩
  refine ⟨three, steady, leads_run _ _, by rw [reported]; simp [deferred], by rfl, by rfl, ?_⟩
  obtain ⟨_, deferral, _⟩ := no_turtle_starves willing (leads_run crew fuelInquiry) steady "cid"
  obtain ⟨_, entry, next, within⟩ := deferral (fun _ => []) (fun _ => 1) report
    (reported ▸ List.mem_singleton_self report) (by simp [deferred])
  have head : some { id := 1, command := .getFuelLevel } = some entry := next
  rw [three] at within
  rw [Option.some.inj head]
  exact within

end Stage

end TurtleFleet
