import TurtleFleet.Proofs.Cursor
import TurtleFleet.Proofs.Fate

/-! Deferral: which turtles a tick defers, and what becomes of them. The work monitor is asked before
every command, and a turtle that is denied keeps its next command, which is the one that it is
offered again in the next tick. The turtle that is visited first is denied only if the work monitor
denies work at the very beginning of a tick. -/

namespace TurtleFleet

variable {C M W : Type}

/-! ### Willing work monitors -/

namespace WorkMonitor

variable [WorkMonitor M]

/-- What can become of a work monitor in ticks whose commands take any time. -/
inductive Leads (first : M) : M → Prop where
  | rest : Leads first first
  | begun {last : M} (led : Leads first last) : Leads first (beginTick last)
  | asked {last : M} (led : Leads first last) : Leads first (canWork last).2
  | tracked {last : M} (led : Leads first last) (nanos : Nat) : Leads first (trackWork last nanos)

theorem Leads.trans {first second last : M} (led : Leads first second) (later : Leads second last) :
    Leads first last := by
  induction later with
  | rest => exact led
  | begun _ ih => exact ih.begun
  | asked _ ih => exact ih.asked
  | tracked _ nanos ih => exact ih.tracked nanos

/-- The work monitor allows a command right after the beginning of every tick. -/
def Willing (monitor : M) : Prop :=
  ∀ later, Leads monitor later → (canWork (beginTick later)).1 = true

theorem Willing.later {first last : M} (willing : Willing first) (led : Leads first last) :
    Willing last := fun later further => willing later (led.trans further)

end WorkMonitor

namespace WorkBudget

open WorkMonitor

theorem allowance_of_leads {first last : WorkBudget} (led : Leads first last) :
    last.allowance = first.allowance := by
  induction led with
  | rest => rfl
  | begun _ ih => exact ih
  | asked _ ih => exact ih
  | @tracked last _ nanos ih =>
    rw [← ih]
    show (last.trackWork nanos).allowance = last.allowance
    unfold trackWork
    dsimp only
    split <;> rfl

/-- A work budget allows the first command of every tick unless there is nothing to spend. -/
theorem willing_iff {budget : WorkBudget} : Willing budget ↔ budget.allowance ≠ some 0 := by
  have first (later : WorkBudget) :
      (WorkMonitor.canWork (WorkMonitor.beginTick later)).1 = true ↔ later.allowance ≠ some 0 := by
    show WorkBudget.canWork (WorkBudget.beginTick later) = true ↔ _
    rcases allowance : later.allowance with _ | allowance
    · simp [WorkBudget.canWork, WorkBudget.beginTick, allowance]
    · simp [WorkBudget.canWork, WorkBudget.beginTick, allowance, Nat.pos_iff_ne_zero]
  constructor
  · intro willing
    exact (first budget).mp (willing budget .rest)
  · intro some later led
    rw [first, allowance_of_leads led]
    exact some

end WorkBudget

/-! ### Waiting for the work monitor -/

theorem CommandQueue.head?_submit {queue : CommandQueue C} {entry : QueueEntry C}
    (next : queue.entries.head? = some entry) (command : C) :
    (queue.submit command).2.entries.head? = some entry := by
  simp only [submit]
  split
  · rw [List.head?_append, next, Option.some_or]
  · exact next

/-- The member could start a command, namely that of the given entry. -/
structure Member.Waits (member : Member C) (entry : QueueEntry C) : Prop where
  still : member.turtle.animation.playing = false
  next : member.queue.entries.head? = some entry

theorem Member.Waits.takeIn {member : Member C} {entry : QueueEntry C} (waits : member.Waits entry)
    (commands : List C) : (member.takeIn commands).Waits entry := by
  induction commands generalizing member with
  | nil => exact waits
  | cons command rest ih =>
    rw [takeIn_cons]
    exact ih ⟨waits.still, CommandQueue.head?_submit waits.next command⟩

theorem Member.still_woken {member : Member C} (still : member.turtle.animation.playing = false)
    (id : TurtleId) (time : Nat) : (member.woken id time).turtle.animation.playing = false := by
  simp [woken_eq, Animation.tick_of_still still, still]

/-- A turtle of the fleet could start a command, namely that of the given entry. -/
def Fleet.Waits (fleet : Fleet C M) (id : TurtleId) (entry : QueueEntry C) : Prop :=
  ∃ member, fleet.members.get? id = some member ∧ member.Waits entry

namespace Round

variable [Command C] [World W] [WorkMonitor M]

/-! ### What a visit defers -/

theorem visit_monitor (round : Round C M W) (id : TurtleId) (nanos : Nat) :
    WorkMonitor.Leads round.stage.fleet.monitor (round.visit id nanos).stage.fleet.monitor := by
  have visits := visits_visit round id nanos
  generalize round.visit id nanos = left at visits ⊢
  have asked : WorkMonitor.Leads round.stage.fleet.monitor
      (WorkMonitor.canWork round.stage.fleet.monitor).2 := .asked .rest
  cases visits with
  | absent missing => exact .rest
  | busy found plays => exact .rest
  | idle found still empty => exact .rest
  | deferred found still waiting denied =>
    rw [denied] at asked
    exact asked
  | executed found still waiting allowed =>
    rw [allowed] at asked
    exact asked.tracked nanos

theorem visit_deferred (round : Round C M W) (id : TurtleId) (nanos : Nat) :
    (round.visit id nanos).report.deferred = round.report.deferred ∨
      (round.visit id nanos).report.deferred = round.report.deferred ++ [id] ∧
        (WorkMonitor.canWork round.stage.fleet.monitor).1 = false := by
  have visits := visits_visit round id nanos
  generalize round.visit id nanos = left at visits ⊢
  cases visits with
  | deferred found still waiting denied => exact .inr ⟨rfl, congrArg Prod.fst denied⟩
  | _ => exact .inl rfl

theorem visit_registered (round : Round C M W) (id : TurtleId) (nanos : Nat) (other : TurtleId) :
    ((round.visit id nanos).stage.fleet.members.get? other).isSome =
      (round.stage.fleet.members.get? other).isSome := by
  by_cases same : other = id
  · have visits := visits_visit round id nanos
    generalize round.visit id nanos = left at visits ⊢
    rw [same]
    have woken {member : Member C} (found : round.stage.fleet.members.get? id = some member) :
        ((round.wake id member).2.stage.fleet.members.get? id).isSome =
          (round.stage.fleet.members.get? id).isSome := by
      rw [found, wake_fleet, Fleet.setMember, Keyed.get?_insert_self]
      rfl
    cases visits with
    | absent missing => rfl
    | busy found plays => exact woken found
    | idle found still empty => exact woken found
    | deferred found still waiting denied => exact woken found
    | executed found still waiting allowed =>
      rw [found]
      simp only [execute, Fleet.setMember, Keyed.get?_insert_self, Option.isSome_some]
  · rw [(round.visit_of_ne same nanos).1]

/-- A turtle that could start a command is deferred, and could still start it, or starts it. -/
theorem visit_of_waits {round : Round C M W} {id : TurtleId} {entry : QueueEntry C}
    (waits : round.stage.fleet.Waits id entry) (nanos : Nat) :
    ((round.visit id nanos).report.deferred = round.report.deferred ++ [id] ∧
        (round.visit id nanos).stage.fleet.Waits id entry) ∨
      ∃ success, (round.visit id nanos).report.startedFor id = round.report.startedFor id ++
        [{ turtleId := id, id := entry.id, command := Command.name entry.command, success }] := by
  obtain ⟨member, known, waits⟩ := waits
  have visits := visits_visit round id nanos
  generalize round.visit id nanos = left at visits ⊢
  cases visits with
  | absent missing => rw [known] at missing; cases missing
  | busy found plays =>
    cases known.symm.trans found
    rw [Member.still_woken waits.still] at plays
    cases plays
  | idle found still empty =>
    cases known.symm.trans found
    have next := waits.next
    rw [empty] at next
    cases next
  | deferred found still waiting denied =>
    cases known.symm.trans found
    refine .inl ⟨rfl, member.woken id round.stage.fleet.time, Keyed.get?_insert_self .., still, ?_⟩
    rw [Member.woken_queue]
    exact waits.next
  | @executed _ first rest monitor found still waiting allowed =>
    cases known.symm.trans found
    have next := waits.next
    rw [waiting] at next
    cases next
    exact .inr ⟨_, by simp [TickReport.startedFor, execute, watched]; rfl⟩

theorem waits_of_visit_deferred {round : Round C M W} {id : TurtleId} {nanos : Nat}
    (fresh : id ∉ round.report.deferred) (listed : id ∈ (round.visit id nanos).report.deferred) :
    ∃ entry, (round.visit id nanos).stage.fleet.Waits id entry := by
  have visits := visits_visit round id nanos
  generalize round.visit id nanos = left at visits listed ⊢
  cases visits with
  | @deferred member entry rest monitor found still waiting denied =>
    refine ⟨entry, member.woken id round.stage.fleet.time, Keyed.get?_insert_self .., still, ?_⟩
    rw [Member.woken_queue, waiting]
    rfl
  | _ => exact (fresh listed).elim

/-! ### What turns defer -/

variable (arrivals : TurtleId → List (Submitter × C)) (nanos : TurtleId → Nat)

theorem turn_monitor (round : Round C M W) (id : TurtleId) :
    WorkMonitor.Leads round.stage.fleet.monitor (turn arrivals nanos round id).stage.fleet.monitor := by
  obtain ⟨members, retired, taken⟩ := round.stage.fleet.takeIn_eq (arrivals id)
  have same : (round.takeIn (arrivals id)).stage.fleet.monitor = round.stage.fleet.monitor := by
    rw [takeIn, taken]
  exact same ▸ (round.takeIn (arrivals id)).visit_monitor id (nanos id)

theorem turns_monitor (round : Round C M W) (ids : List TurtleId) :
    WorkMonitor.Leads round.stage.fleet.monitor
      (ids.foldl (turn arrivals nanos) round).stage.fleet.monitor := by
  induction ids generalizing round with
  | nil => exact .rest
  | cons id rest ih => exact (turn_monitor arrivals nanos round id).trans (ih _)

theorem turns_registered (round : Round C M W) (ids : List TurtleId) (other : TurtleId) :
    ((ids.foldl (turn arrivals nanos) round).stage.fleet.members.get? other).isSome =
      (round.stage.fleet.members.get? other).isSome := by
  induction ids generalizing round with
  | nil => rfl
  | cons id rest ih =>
    rw [List.foldl_cons, ih, turn, visit_registered, takeIn, Fleet.get?_takeIn, Option.isSome_map]

theorem turns_deferred (round : Round C M W) (ids : List TurtleId) :
    ∃ denied, denied.Sublist ids ∧
      (ids.foldl (turn arrivals nanos) round).report.deferred = round.report.deferred ++ denied := by
  induction ids generalizing round with
  | nil => exact ⟨[], .slnil, (List.append_nil _).symm⟩
  | cons id rest ih =>
    obtain ⟨denied, among, later⟩ := ih (turn arrivals nanos round id)
    rcases (round.takeIn (arrivals id)).visit_deferred id (nanos id) with none | ⟨one, _⟩
    · exact ⟨denied, among.cons _, later.trans (congrArg (· ++ denied) none)⟩
    · refine ⟨id :: denied, among.cons_cons _, later.trans ?_⟩
      rw [turn, one]
      exact List.append_assoc ..

theorem turns_deferred_of_not_mem (round : Round C M W) {ids : List TurtleId} {other : TurtleId}
    (apart : other ∉ ids) :
    other ∈ (ids.foldl (turn arrivals nanos) round).report.deferred ↔
      other ∈ round.report.deferred := by
  obtain ⟨denied, among, left⟩ := turns_deferred arrivals nanos round ids
  have fresh : other ∉ denied := fun listed => apart (among.subset listed)
  rw [left, List.mem_append, or_iff_left fresh]

theorem turns_waits_of_not_mem {round : Round C M W} {ids : List TurtleId} {other : TurtleId}
    {entry : QueueEntry C} (waits : round.stage.fleet.Waits other entry) (apart : other ∉ ids) :
    (ids.foldl (turn arrivals nanos) round).stage.fleet.Waits other entry := by
  obtain ⟨member, found, waits⟩ := waits
  obtain ⟨kept, _⟩ := turns_of_not_mem arrivals nanos round apart
  rw [found] at kept
  exact ⟨_, kept, waits.takeIn _⟩

end Round

theorem Fleet.Waits.takeIn {fleet : Fleet C M} {id : TurtleId} {entry : QueueEntry C}
    (waits : fleet.Waits id entry) (arrivals : List (Submitter × C)) :
    (fleet.takeIn arrivals).Waits id entry := by
  obtain ⟨member, found, waits⟩ := waits
  refine ⟨_, ?_, waits.takeIn (addressed (member.handle id) arrivals)⟩
  rw [get?_takeIn, found]
  rfl

theorem TickReport.mem_executed {report : TickReport} (id : TurtleId) {record : ExecutedCommand}
    (started : record ∈ report.startedFor id) : record ∈ report.executed :=
  (List.mem_filter.mp started).1

/-! ### What a tick defers -/

namespace Operation

variable [Command C] [World W] [WorkMonitor M]
variable (arrivals : TurtleId → List (Submitter × C)) (nanos : TurtleId → Nat) {stage : Stage C M W}

/-- The turtle that is visited first is not deferred. -/
theorem tickRound_deferred
    (allowed : (WorkMonitor.canWork (WorkMonitor.beginTick stage.fleet.monitor)).1 = true) :
    (tickRound arrivals nanos stage).report.deferred.Sublist stage.fleet.visitOrder.tail := by
  rw [tickRound]
  generalize stage.fleet.visitOrder = order
  cases order with
  | nil => exact .slnil
  | cons head rest =>
    obtain ⟨denied, among, left⟩ :=
      Round.turns_deferred arrivals nanos (Round.turn arrivals nanos (opened stage) head) rest
    have first : (Round.turn arrivals nanos (opened stage) head).report.deferred = [] := by
      obtain ⟨members, retired, taken⟩ :=
        (opened stage).stage.fleet.takeIn_eq (arrivals head)
      have monitor : ((opened stage).takeIn (arrivals head)).stage.fleet.monitor =
          WorkMonitor.beginTick stage.fleet.monitor := by
        rw [Round.takeIn, taken]
        rfl
      rcases ((opened stage).takeIn (arrivals head)).visit_deferred head (nanos head) with
        none | ⟨_, refused⟩
      · exact none
      · rw [monitor, allowed] at refused
        cases refused
    rw [List.foldl_cons, left, first, List.nil_append]
    exact among

/-- A turtle that could start a command is deferred, and could still start it, or starts it. -/
theorem tickRound_of_waits {id : TurtleId} {entry : QueueEntry C}
    (waits : stage.fleet.Waits id entry) :
    (id ∈ (tickRound arrivals nanos stage).report.deferred ∧
        (tickRound arrivals nanos stage).stage.fleet.Waits id entry) ∨
      ∃ success, { turtleId := id, id := entry.id, command := Command.name entry.command, success } ∈
        (tickRound arrivals nanos stage).report.executed := by
  have ⟨member, found, _⟩ := waits
  obtain ⟨first, second, _, notEarlier, notLater, whole⟩ :=
    tickRound_split arrivals nanos (Option.isSome_of_eq_some found)
  have waitsThen : ((first.foldl (Round.turn arrivals nanos) (opened stage)).takeIn
      (arrivals id)).stage.fleet.Waits id entry :=
    (Round.turns_waits_of_not_mem arrivals nanos
      (show (opened stage).stage.fleet.Waits id entry from waits) notEarlier).takeIn _
  rw [whole]
  rcases Round.visit_of_waits waitsThen (nanos id) with ⟨deferred, still⟩ | ⟨success, started⟩
  · refine .inl ⟨?_, Round.turns_waits_of_not_mem arrivals nanos still notLater⟩
    rw [Round.turns_deferred_of_not_mem arrivals nanos _ notLater, Round.turn, deferred]
    exact List.mem_append_right _ (List.mem_singleton_self id)
  · obtain ⟨_, _, kept⟩ := Round.turns_of_not_mem arrivals nanos
      (Round.turn arrivals nanos (first.foldl (Round.turn arrivals nanos) (opened stage)) id) notLater
    refine .inr ⟨success, TickReport.mem_executed id ?_⟩
    rw [kept, Round.turn, started]
    exact List.mem_append_right _ (List.mem_singleton_self _)

/-- A turtle that is deferred is left with a command that it could start. -/
theorem waits_of_tickRound_deferred {arrivals : TurtleId → List (Submitter × C)}
    {nanos : TurtleId → Nat} {id : TurtleId}
    (listed : id ∈ (tickRound arrivals nanos stage).report.deferred) :
    ∃ entry, (tickRound arrivals nanos stage).stage.fleet.Waits id entry := by
  have registered : (stage.fleet.members.get? id).isSome := by
    obtain ⟨denied, among, left⟩ :=
      Round.turns_deferred arrivals nanos (opened stage) stage.fleet.visitOrder
    rw [tickRound, left] at listed
    exact (stage.fleet.mem_visitOrder id).mp (among.subset listed)
  obtain ⟨first, second, _, notEarlier, notLater, whole⟩ :=
    tickRound_split arrivals nanos registered
  rw [whole] at listed ⊢
  rw [Round.turns_deferred_of_not_mem arrivals nanos _ notLater] at listed
  have fresh : id ∉ ((first.foldl (Round.turn arrivals nanos) (opened stage)).takeIn
      (arrivals id)).report.deferred := fun earlier =>
    List.not_mem_nil ((Round.turns_deferred_of_not_mem arrivals nanos _ notEarlier).mp earlier)
  obtain ⟨entry, waits⟩ := Round.waits_of_visit_deferred fresh listed
  exact ⟨entry, Round.turns_waits_of_not_mem arrivals nanos waits notLater⟩

end Operation

end TurtleFleet
