import TurtleFleet.Proofs.Deferral
import TurtleFleet.Proofs.Spending

/-! Statistics: what the counters of a work budget tell of the ticks. A budget is a function of the
times that the commands of its ticks took, so that its counters see work and nothing else. They do
not see which turtles were deferred, and they do not see a tick without any work. -/

namespace TurtleFleet

variable {C W : Type}

namespace WorkBudget

/-- Work of the given times leaves nothing of an allowance. -/
def usedUp (allowance : Option Nat) (costs : List Nat) : Bool :=
  allowance.any (· ≤ min costs.sum countCap)

/-- A tick whose commands took the given times came to the end of its allowance by them. -/
def ranOut (allowance : Option Nat) (costs : List Nat) : Bool :=
  !costs.isEmpty && usedUp allowance costs

/-- The budget after a tick whose commands took the given times. -/
def afterTick (budget : WorkBudget) (costs : List Nat) : WorkBudget :=
  costs.foldl trackWork budget.beginTick

/-- The budget after ticks whose commands took the given times. -/
def afterTicks (budget : WorkBudget) (ticks : List (List Nat)) : WorkBudget :=
  ticks.foldl afterTick budget

theorem usedUp_append {allowance : Option Nat} {costs : List Nat} (used : usedUp allowance costs)
    (later : List Nat) : usedUp allowance (costs ++ later) := by
  cases allowance with
  | none => cases used
  | some granted =>
    simp only [usedUp, Option.any_some, decide_eq_true_eq, List.sum_append] at used ⊢
    omega

theorem usedUp_nil {allowance : Option Nat} : usedUp allowance [] ↔ allowance = some 0 := by
  cases allowance with
  | none => simp [usedUp]
  | some granted => simp [usedUp]

@[simp] theorem ranOut_nil (allowance : Option Nat) : ranOut allowance [] = false := rfl

@[simp] theorem ranOut_concat (allowance : Option Nat) (costs : List Nat) (nanos : Nat) :
    ranOut allowance (costs ++ [nanos]) = usedUp allowance (costs ++ [nanos]) := by
  simp [ranOut]

/-! ### Within a tick -/

/-- What is known of a budget during a tick whose commands have taken the given times. -/
structure Midway (before : WorkBudget) (costs : List Nat) (budget : WorkBudget) : Prop where
  allowance : budget.allowance = before.allowance
  spent : budget.spent = min costs.sum countCap
  exhausted : budget.exhausted = ranOut before.allowance costs
  lastTick : budget.stats.lastTickNanos =
    if costs = [] then before.stats.lastTickNanos else min costs.sum countCap
  exhaustedTicks : budget.stats.exhaustedTicks =
    if ranOut before.allowance costs then cappedAdd before.stats.exhaustedTicks 1
    else before.stats.exhaustedTicks

variable {before budget : WorkBudget} {costs : List Nat}

/-- A budget allows work as long as what it has spent does not use up its allowance. -/
theorem canWork_eq (costs : List Nat) (spent : budget.spent = min costs.sum countCap) :
    budget.canWork = !usedUp budget.allowance costs := by
  rw [WorkBudget.canWork, spent]
  cases budget.allowance with
  | none => rfl
  | some granted =>
    simp only [usedUp, Option.any_some, ← decide_not, Nat.not_le]

theorem Midway.canWork (midway : Midway before costs budget) :
    budget.canWork = !usedUp before.allowance costs := by
  rw [canWork_eq costs midway.spent, midway.allowance]

theorem midway_beginTick (before : WorkBudget) : Midway before [] before.beginTick := by
  constructor <;> rfl

/-- A command counts for the tick, and makes it an exhausted one if it is the first to leave nothing
to spend. -/
theorem Midway.trackWork (midway : Midway before costs budget) (nanos : Nat) :
    Midway before (costs ++ [nanos]) (budget.trackWork nanos) := by
  have spent : cappedAdd budget.spent nanos = min (costs ++ [nanos]).sum countCap := by
    rw [midway.spent, cappedAdd_min, List.sum_append, List.sum_singleton]
  have some : costs ++ [nanos] ≠ [] := by simp
  have counted := midway.exhaustedTicks
  unfold WorkBudget.trackWork
  dsimp only
  rw [canWork_eq (costs ++ [nanos]) spent, midway.exhausted, midway.allowance, Bool.not_not]
  split
  · rename_i crossed
    obtain ⟨fresh, used⟩ := Bool.and_eq_true_iff.mp crossed
    rw [Bool.not_eq_true'] at fresh
    rw [fresh] at counted
    refine ⟨rfl, spent, ?_, spent.trans (if_neg some).symm, ?_⟩
    · rw [ranOut_concat, used]
    · rw [ranOut_concat, used]
      exact congrArg (cappedAdd · 1) counted
  · rename_i same
    -- The tick had run out already, or it has not run out yet.
    have still : ranOut before.allowance (costs ++ [nanos]) = ranOut before.allowance costs := by
      rw [ranOut_concat]
      rcases ran : ranOut before.allowance costs with _ | _
      · simpa [ran] using same
      · exact usedUp_append (Bool.and_eq_true_iff.mp ran).2 [nanos]
    refine ⟨rfl, spent, still.symm, spent.trans (if_neg some).symm, ?_⟩
    rw [still]
    exact counted

theorem midway_afterTick (before : WorkBudget) (costs : List Nat) :
    Midway before costs (before.afterTick costs) := by
  induction costs using List.reverseRecOn with
  | nil => exact midway_beginTick before
  | append_singleton costs nanos ih =>
    have step : before.afterTick (costs ++ [nanos]) = (before.afterTick costs).trackWork nanos :=
      List.foldl_append
    rw [step]
    exact ih.trackWork nanos

/-! ### After ticks -/

theorem afterTicks_concat (budget : WorkBudget) (ticks : List (List Nat)) (costs : List Nat) :
    budget.afterTicks (ticks ++ [costs]) = (budget.afterTicks ticks).afterTick costs :=
  List.foldl_append

theorem afterTicks_allowance (budget : WorkBudget) (ticks : List (List Nat)) :
    (budget.afterTicks ticks).allowance = budget.allowance := by
  induction ticks using List.reverseRecOn with
  | nil => rfl
  | append_singleton ticks costs ih =>
    rw [afterTicks_concat, (midway_afterTick _ costs).allowance, ih]

theorem afterTicks_exhaustedTicks (allowance : Option Nat) (ticks : List (List Nat)) :
    (afterTicks { allowance } ticks).stats.exhaustedTicks =
      min (ticks.countP (ranOut allowance)) countCap := by
  induction ticks using List.reverseRecOn with
  | nil => rfl
  | append_singleton ticks costs ih =>
    have same : (afterTicks { allowance } ticks).allowance = allowance :=
      afterTicks_allowance { allowance } ticks
    rw [afterTicks_concat, (midway_afterTick _ costs).exhaustedTicks, same, ih, List.countP_append,
      List.countP_singleton]
    split
    · exact cappedAdd_min _ _
    · rfl

theorem afterTicks_lastTickNanos (allowance : Option Nat) (ticks : List (List Nat)) :
    (afterTicks { allowance } ticks).stats.lastTickNanos =
      min ((ticks.filter (· ≠ [])).getLast?.getD []).sum countCap := by
  induction ticks using List.reverseRecOn with
  | nil => rfl
  | append_singleton ticks costs ih =>
    rw [afterTicks_concat, (midway_afterTick _ costs).lastTick, ih]
    by_cases none : costs = []
    · simp [none]
    · simp [none]

end WorkBudget

variable [Command C] [World W]

namespace Round

open WorkBudget

/-- The round has spent nothing but the costs of its report from the budget before the tick. -/
structure Tracked (before : WorkBudget) (nanos : TurtleId → Nat) (round : Round C WorkBudget W) :
    Prop where
  monitor : round.stage.fleet.monitor = before.afterTick (round.report.costs nanos)
  /-- Commands are deferred only when the allowance is used up. -/
  spent : round.report.deferred ≠ [] → usedUp before.allowance (round.report.costs nanos)
  /-- Without any allowance no command is executed. -/
  unfunded : before.allowance = some 0 → round.report.executed = []

variable {before : WorkBudget} {nanos : TurtleId → Nat} {round : Round C WorkBudget W}

omit [Command C] [World W] in
/-- A budget that is asked for leave answers by what the report has cost, and stays as it is. -/
theorem Tracked.asked (tracked : round.Tracked before nanos) {answer : Bool} {monitor : WorkBudget}
    (asked : WorkMonitor.canWork round.stage.fleet.monitor = (answer, monitor)) :
    monitor = round.stage.fleet.monitor ∧
      usedUp before.allowance (round.report.costs nanos) = !answer := by
  obtain ⟨answered, same⟩ := Prod.mk.inj asked
  have free := (midway_afterTick before (round.report.costs nanos)).canWork
  rw [← tracked.monitor] at free
  refine ⟨same.symm, ?_⟩
  rw [← answered, free, Bool.not_not]

theorem Tracked.visit (tracked : round.Tracked before nanos) (id : TurtleId) :
    (round.visit id (nanos id)).Tracked before nanos := by
  have visits := visits_visit round id (nanos id)
  generalize round.visit id (nanos id) = left at visits ⊢
  cases visits with
  | absent missing => exact tracked
  | busy found plays => exact ⟨tracked.monitor, tracked.spent, tracked.unfunded⟩
  | idle found still empty => exact ⟨tracked.monitor, tracked.spent, tracked.unfunded⟩
  | deferred found still waiting denied =>
    obtain ⟨rfl, used⟩ := tracked.asked denied
    exact ⟨tracked.monitor, fun _ => used, tracked.unfunded⟩
  | @executed member entry rest monitor found still waiting allowed =>
    obtain ⟨rfl, room⟩ := tracked.asked allowed
    have costs : (((round.wake id member).2.watched round.stage.fleet.monitor).execute id
        { member.woken id round.stage.fleet.time with queue := { member.queue with entries := rest } }
        entry (nanos id)).report.costs nanos = round.report.costs nanos ++ [nanos id] := by
      simp [TickReport.costs, execute, watched]
    refine ⟨?_, fun denied => ?_, fun none => ?_⟩
    · rw [costs, afterTick, List.foldl_append]
      exact congrArg (WorkBudget.trackWork · (nanos id)) tracked.monitor
    · rw [tracked.spent denied] at room
      cases room
    · rw [TickReport.costs, tracked.unfunded none, List.map_nil, usedUp_nil.mpr none] at room
      cases room

/-- A visit defers a turtle that could start a command when the allowance is used up. -/
theorem Tracked.mem_deferred_iff (tracked : round.Tracked before nanos) {id : TurtleId}
    (fresh : id ∉ round.report.deferred) :
    id ∈ (round.visit id (nanos id)).report.deferred ↔
      ∃ member entry, round.stage.fleet.members.get? id = some member ∧
        (member.woken id round.stage.fleet.time).Waits entry ∧
        usedUp before.allowance (round.report.costs nanos) := by
  have visits := visits_visit round id (nanos id)
  generalize round.visit id (nanos id) = left at visits ⊢
  cases visits with
  | absent missing =>
    apply iff_of_false fresh
    rintro ⟨member, entry, found, _⟩
    rw [missing] at found
    cases found
  | busy found plays =>
    apply iff_of_false fresh
    rintro ⟨member, entry, same, waits, _⟩
    cases found.symm.trans same
    rw [waits.still] at plays
    cases plays
  | idle found still empty =>
    apply iff_of_false fresh
    rintro ⟨member, entry, same, waits, _⟩
    cases found.symm.trans same
    have next := waits.next
    rw [Member.woken_queue, empty] at next
    cases next
  | @deferred member entry rest monitor found still waiting denied =>
    apply iff_of_true (List.mem_append_right _ (List.mem_singleton_self id))
    refine ⟨member, entry, found, ⟨still, ?_⟩, (tracked.asked denied).2⟩
    rw [Member.woken_queue, waiting]
    rfl
  | executed found still waiting allowed =>
    apply iff_of_false fresh
    rintro ⟨member, entry, _, _, used⟩
    rw [(tracked.asked allowed).2] at used
    cases used

omit [Command C] [World W] in
theorem Tracked.takeIn (tracked : round.Tracked before nanos) (arrivals : List (Submitter × C)) :
    (round.takeIn arrivals).Tracked before nanos := by
  obtain ⟨members, retired, taken⟩ := round.stage.fleet.takeIn_eq arrivals
  refine ⟨?_, tracked.spent, tracked.unfunded⟩
  simp only [Round.takeIn, taken]
  exact tracked.monitor

theorem Tracked.turns (arrivals : TurtleId → List (Submitter × C))
    (tracked : round.Tracked before nanos) (ids : List TurtleId) :
    (ids.foldl (turn arrivals nanos) round).Tracked before nanos := by
  induction ids generalizing round with
  | nil => exact tracked
  | cons id rest ih => exact ih ((tracked.takeIn (arrivals id)).visit id)

end Round

/-! ### What a tick tells -/

namespace Operation

open WorkBudget

variable (arrivals : TurtleId → List (Submitter × C)) (nanos : TurtleId → Nat)
variable (stage : Stage C WorkBudget W)

omit [Command C] [World W] in
theorem tracked_opened : (opened stage).Tracked stage.fleet.monitor nanos where
  monitor := rfl
  spent := fun deferred => (deferred rfl).elim
  unfunded := fun _ => rfl

theorem tracked_tickRound : (tickRound arrivals nanos stage).Tracked stage.fleet.monitor nanos :=
  (tracked_opened nanos stage).turns arrivals _

theorem tracked_reached (id : TurtleId) :
    (reached arrivals nanos stage id).Tracked stage.fleet.monitor nanos :=
  ((tracked_opened nanos stage).turns arrivals _).takeIn _

/-- The turtles are deferred that could start a command when the allowance has been used up by the
turtles before them. -/
theorem mem_deferred_iff (id : TurtleId) :
    id ∈ (tickRound arrivals nanos stage).report.deferred ↔
      ∃ member entry, (reached arrivals nanos stage id).stage.fleet.members.get? id = some member ∧
        (member.woken id (cappedAdd stage.fleet.time 1)).Waits entry ∧
        usedUp stage.fleet.monitor.allowance
          ((reached arrivals nanos stage id).report.costs nanos) := by
  have registered : ((reached arrivals nanos stage id).stage.fleet.members.get? id).isSome =
      (stage.fleet.members.get? id).isSome := by
    rw [reached, Round.takeIn, Fleet.get?_takeIn, Option.isSome_map, Round.turns_registered]
    rfl
  rcases known : stage.fleet.members.get? id with _ | member
  · rw [known] at registered
    apply iff_of_false
    · intro listed
      obtain ⟨denied, among, left⟩ :=
        Round.turns_deferred arrivals nanos (opened stage) stage.fleet.visitOrder
      rw [tickRound, left] at listed
      have visited := (stage.fleet.mem_visitOrder id).mp (among.subset listed)
      rw [known] at visited
      cases visited
    · rintro ⟨member, entry, found, _⟩
      rw [found] at registered
      cases registered
  · obtain ⟨first, second, split, notEarlier, notLater, whole⟩ :=
      tickRound_split arrivals nanos (Option.isSome_of_eq_some known)
    obtain ⟨early, late, reaches⟩ := exists_reaches arrivals nanos known
    have ready := reached_of_split arrivals nanos split
    have fresh : id ∉ (reached arrivals nanos stage id).report.deferred := by
      rw [ready]
      exact fun earlier => List.not_mem_nil
        ((Round.turns_deferred_of_not_mem arrivals nanos (opened stage) notEarlier).mp earlier)
    have time := congrArg Context.time reaches.context
    have visited := (tracked_reached arrivals nanos stage id).mem_deferred_iff fresh
    rw [show (reached arrivals nanos stage id).stage.fleet.time = _ from time] at visited
    rw [← visited, whole, ready]
    exact Round.turns_deferred_of_not_mem arrivals nanos _ notLater

end Operation

/-! ### What a course tells -/

/-- Some turtle had to wait for the next tick. -/
def TickBill.defers (bill : TickBill) : Bool := !bill.report.deferred.isEmpty

/-- The commands of the tick used up the allowance. -/
def TickBill.runsOut (allowance : Option Nat) (bill : TickBill) : Bool :=
  WorkBudget.ranOut allowance bill.costs

/-- What the bill of a tick says under an allowance. -/
structure TickBill.Honest (allowance : Option Nat) (bill : TickBill) : Prop where
  spent : bill.report.deferred ≠ [] → WorkBudget.usedUp allowance bill.costs
  unfunded : allowance = some 0 → bill.report.executed = []

theorem TickBill.costs_eq_nil {bill : TickBill} : bill.costs = [] ↔ bill.report.executed = [] :=
  List.map_eq_nil_iff

/-- Turtles are deferred in a tick whose commands used up the allowance, or without any allowance. -/
theorem TickBill.Honest.of_defers {allowance : Option Nat} {bill : TickBill}
    (honest : bill.Honest allowance) (defers : bill.defers) :
    bill.runsOut allowance ∨ allowance = some 0 ∧ bill.report.executed = [] := by
  have used := honest.spent (by simpa [TickBill.defers] using defers)
  by_cases none : bill.costs = []
  · rw [none] at used
    exact .inr ⟨WorkBudget.usedUp_nil.mp used, costs_eq_nil.mp none⟩
  · refine .inl ?_
    rw [runsOut, WorkBudget.ranOut, used, Bool.and_true]
    simpa using none

/-- Without any allowance no tick counts as an exhausted one. -/
theorem TickBill.Honest.not_runsOut {bill : TickBill} (honest : bill.Honest (some 0)) :
    bill.runsOut (some 0) = false := by
  rw [runsOut, costs_eq_nil.mpr (honest.unfunded rfl)]
  rfl

/-- Of a test and a stronger one, as many values pass each only if the same ones do. -/
theorem countP_eq_iff_of_imp {α : Type} {weak strong : α → Bool} {values : List α}
    (stronger : ∀ value ∈ values, strong value → weak value) :
    values.countP weak = values.countP strong ↔ ∀ value ∈ values, weak value = strong value := by
  induction values with
  | nil => simp
  | cons value rest ih =>
    obtain ⟨here, others⟩ := List.forall_mem_cons.mp stronger
    have fewer : rest.countP strong ≤ rest.countP weak := List.countP_mono_left others
    rw [List.forall_mem_cons, List.countP_cons, List.countP_cons, ← ih others]
    rcases strict : strong value with _ | _
    · rcases weak value with _ | _
      · simp
      · simp
        omega
    · simp [here strict]

/-- As many ticks run out as defer turtles only if they are the same ones. -/
theorem TickBill.countP_runsOut_eq_iff {allowance : Option Nat} {bills : List TickBill}
    (honest : ∀ bill ∈ bills, bill.Honest allowance) :
    bills.countP (·.runsOut allowance) = bills.countP (·.defers) ↔
      ∀ bill ∈ bills, bill.runsOut allowance = bill.defers := by
  by_cases none : allowance = some 0
  · -- No tick runs out, so that the test of running out is the stronger one.
    subst none
    have never : ∀ bill ∈ bills, bill.runsOut (some 0) → bill.defers := by
      intro bill listed ran
      rw [(honest bill listed).not_runsOut] at ran
      cases ran
    rw [eq_comm, countP_eq_iff_of_imp never]
    exact forall₂_congr fun _ _ => eq_comm
  · apply countP_eq_iff_of_imp
    intro bill listed defers
    exact ((honest bill listed).of_defers defers).resolve_right fun zero => none zero.1

namespace Stage

open WorkBudget

/-- The budget is told of nothing but the costs of the ticks. -/
theorem monitor_of_leads {start last : Stage C WorkBudget W} {course : List (Deed C W)}
    (led : start.Leads course last) :
    (∀ bill ∈ start.bills course, bill.Honest start.fleet.monitor.allowance) ∧
      last.fleet.monitor =
        start.fleet.monitor.afterTicks ((start.bills course).map (·.costs)) := by
  induction led with
  | rest stage => exact ⟨nofun, rfl⟩
  | @step stage last deed deeds whole later ih =>
    obtain ⟨honest, same⟩ := ih
    rw [bills, collect]
    rcases timed : deed.isTick with _ | _
    · have none : stage.billed deed = [] := by
        cases deed with
        | tick arrivals nanos => cases timed
        | _ => rfl
      rw [stage.monitor_next_of_untimed whole timed] at honest same
      rw [none]
      exact ⟨honest, same⟩
    · cases deed with
      | tick arrivals nanos =>
        have tracked := Operation.tracked_tickRound arrivals nanos stage
        have monitor : (stage.next (.tick arrivals nanos)).fleet.monitor =
            stage.fleet.monitor.afterTick
              ((Operation.tickRound arrivals nanos stage).report.costs nanos) := tracked.monitor
        have granted : (stage.next (.tick arrivals nanos)).fleet.monitor.allowance =
            stage.fleet.monitor.allowance := by
          rw [monitor]
          exact (midway_afterTick _ _).allowance
        rw [granted] at honest
        refine ⟨List.forall_mem_cons.mpr ⟨⟨tracked.spent, tracked.unfunded⟩, honest⟩, ?_⟩
        rw [same, monitor]
        rfl
      | _ => cases timed

/-- The exhausted ticks are those whose commands used up the allowance, be it by the last command of
the tick and with nothing left to defer. A tick that defers turtles is one of them, except without any
allowance, where nothing is ever executed. So as many ticks are counted as defer turtles only if every
tick that runs out defers some turtle and every tick that defers one runs out. In the next tick
precisely the turtles are deferred that could start a command when the allowance has been used up by
the turtles before them. -/
theorem exhausted_ticks_are_those_that_run_out {start last : Stage C WorkBudget W}
    {course : List (Deed C W)} {allowance : Option Nat}
    (budget : start.fleet.monitor = { allowance }) (led : start.Leads course last) :
    (start.bills course).map (·.report) = start.reports course ∧
    last.fleet.monitor.stats.exhaustedTicks =
      min ((start.bills course).countP (·.runsOut allowance)) countCap ∧
    (∀ bill ∈ start.bills course, bill.defers →
      bill.runsOut allowance ∨ allowance = some 0 ∧ bill.report.executed = []) ∧
    (course.countP (·.isTick) < word64 →
      (last.fleet.monitor.stats.exhaustedTicks = (start.bills course).countP (·.defers) ↔
        ∀ bill ∈ start.bills course, bill.runsOut allowance = bill.defers)) ∧
    ∀ (arrivals : TurtleId → List (Submitter × C)) (nanos : TurtleId → Nat) (id : TurtleId),
      id ∈ (Operation.tickRound arrivals nanos last).report.deferred ↔
        ∃ member entry,
          (Operation.reached arrivals nanos last id).stage.fleet.members.get? id = some member ∧
          (member.woken id (cappedAdd last.fleet.time 1)).Waits entry ∧
          usedUp allowance ((Operation.reached arrivals nanos last id).report.costs nanos) := by
  obtain ⟨honest, monitor⟩ := monitor_of_leads led
  rw [budget] at honest monitor
  have counted : last.fleet.monitor.stats.exhaustedTicks =
      min ((start.bills course).countP (·.runsOut allowance)) countCap := by
    rw [monitor, afterTicks_exhaustedTicks, List.countP_map]
    rfl
  refine ⟨start.report_bills course, counted, fun bill listed => (honest bill listed).of_defers,
    fun few => ?_, fun arrivals nanos id => ?_⟩
  · have uncapped : last.fleet.monitor.stats.exhaustedTicks =
        (start.bills course).countP (·.runsOut allowance) := by
      have some : (start.bills course).countP (·.runsOut allowance) ≤ (start.bills course).length :=
        List.countP_le_length
      rw [start.length_bills course] at some
      rw [counted]
      unfold countCap word64 at *
      omega
    rw [uncapped]
    exact TickBill.countP_runsOut_eq_iff honest
  · have granted : last.fleet.monitor.allowance = allowance := by
      rw [monitor, afterTicks_allowance]
    rw [Operation.mem_deferred_iff, granted]

theorem exhausted_ticks_are_those_that_run_out_thrift :
    thrift.fleet.monitor = { allowance := some 5 } ∧
      thrift.Leads thriftCourse (thrift.run thriftCourse) ∧
      (thrift.bills thriftCourse).map (·.costs) = [[4, 4], [1]] ∧
      (thrift.bills thriftCourse).map (·.runsOut (some 5)) = [true, false] ∧
      (thrift.bills thriftCourse).map (·.defers) = [true, false] ∧
      (thrift.run thriftCourse).fleet.monitor.stats.exhaustedTicks = 1 := by
  have led := leads_run thrift thriftCourse
  have budget : thrift.fleet.monitor = { allowance := some 5 } := rfl
  have runsOut : (thrift.bills thriftCourse).map (·.runsOut (some 5)) = [true, false] := by rfl
  have count : (thrift.bills thriftCourse).countP (·.runsOut (some 5)) = 1 := by
    have same := List.countP_map (p := id) (f := (·.runsOut (some 5))) (l := thrift.bills thriftCourse)
    rw [runsOut] at same
    exact same.symm
  have exhausted := (exhausted_ticks_are_those_that_run_out budget led).2.1
  rw [count] at exhausted
  exact ⟨budget, led, by rfl, runsOut, by rfl, exhausted⟩

/-- One turtle is asked for its fuel, which takes five nanoseconds. -/
def spendCourse : List (Deed TurtleCommand MemoryWorld) :=
  [.register Sample.scout, .submit "scout" .getFuelLevel, .tick (fun _ => []) (fun _ => 5)]

/-- The only command of a tick spends the whole allowance, and the tick counts although nothing is
deferred. Without any allowance the command is deferred, and the tick does not count. -/
theorem exhausted_ticks_may_defer_nothing_spendCourse :
    thrift.Leads spendCourse (thrift.run spendCourse) ∧
      (thrift.run spendCourse).fleet.monitor.stats.exhaustedTicks = 1 ∧
      (thrift.bills spendCourse).map (·.report.deferred) = [[]] ∧
      (thrift.bills spendCourse).countP (·.defers) = 0 ∧
      let broke : Stage TurtleCommand WorkBudget MemoryWorld :=
        { thrift with fleet := { thrift.fleet with monitor := .ofNanos 0 } }
      broke.Leads spendCourse (broke.run spendCourse) ∧
        (broke.run spendCourse).fleet.monitor.stats.exhaustedTicks = 0 ∧
        (broke.bills spendCourse).map (·.report.deferred) = [["scout"]] ∧
        (broke.bills spendCourse).countP (·.defers) = 1 :=
  ⟨leads_run thrift spendCourse, by rfl, by rfl, by rfl, leads_run _ spendCourse, by rfl, by rfl,
    by rfl⟩

/-- The figure of the last tick is that of the last tick that executed commands. The next tick
replaces it by its own costs only if it executes a command; if it executes none, the figure is right
only if it was zero before. -/
theorem last_tick_nanos_are_of_the_last_busy_tick {start last : Stage C WorkBudget W}
    {course : List (Deed C W)} {allowance : Option Nat}
    (budget : start.fleet.monitor = { allowance }) (led : start.Leads course last) :
    (start.bills course).map (·.report) = start.reports course ∧
    last.fleet.monitor.stats.lastTickNanos =
      min ((((start.bills course).map (·.costs)).filter (· ≠ [])).getLast?.getD []).sum countCap ∧
    ∀ (arrivals : TurtleId → List (Submitter × C)) (nanos : TurtleId → Nat),
      (Operation.tickRound arrivals nanos last).stage.fleet.monitor.stats.lastTickNanos =
        (if (Operation.tickRound arrivals nanos last).report.executed = [] then
          last.fleet.monitor.stats.lastTickNanos
        else min ((Operation.tickRound arrivals nanos last).report.costs nanos).sum countCap) ∧
      ((Operation.tickRound arrivals nanos last).stage.fleet.monitor.stats.lastTickNanos =
          min ((Operation.tickRound arrivals nanos last).report.costs nanos).sum countCap ↔
        (Operation.tickRound arrivals nanos last).report.executed ≠ [] ∨
          last.fleet.monitor.stats.lastTickNanos = 0) := by
  have monitor := (monitor_of_leads led).2
  rw [budget] at monitor
  refine ⟨start.report_bills course, ?_, fun arrivals nanos => ?_⟩
  · rw [monitor, afterTicks_lastTickNanos]
  · have tracked := Operation.tracked_tickRound arrivals nanos last
    generalize Operation.tickRound arrivals nanos last = round at tracked ⊢
    have figure := (midway_afterTick last.fleet.monitor (round.report.costs nanos)).lastTick
    rw [← tracked.monitor] at figure
    have idle : round.report.costs nanos = [] ↔ round.report.executed = [] := List.map_eq_nil_iff
    simp only [idle] at figure
    refine ⟨figure, ?_⟩
    rw [figure]
    by_cases none : round.report.executed = []
    · simp [none, idle.mpr none]
    · simp [none]

theorem last_tick_nanos_are_of_the_last_busy_tick_thrift :
    thrift.fleet.monitor = { allowance := some 5 } ∧
      thrift.Leads thriftCourse (thrift.run thriftCourse) ∧
      (thrift.bills thriftCourse).map (·.costs) = [[4, 4], [1]] ∧
      (thrift.run thriftCourse).fleet.monitor.stats.lastTickNanos = 1 := by
  have led := leads_run thrift thriftCourse
  have budget : thrift.fleet.monitor = { allowance := some 5 } := rfl
  have costs : (thrift.bills thriftCourse).map (·.costs) = [[4, 4], [1]] := by rfl
  have figure := (last_tick_nanos_are_of_the_last_busy_tick budget led).2.1
  rw [costs] at figure
  exact ⟨budget, led, costs, figure⟩

/-- After a tick of five nanoseconds comes one without work, and the figure is still that of the
first one. -/
theorem last_tick_nanos_may_be_of_an_earlier_tick_spendCourse :
    thrift.Leads (spendCourse ++ [Sample.tick]) (thrift.run (spendCourse ++ [Sample.tick])) ∧
      (thrift.bills (spendCourse ++ [Sample.tick])).map (·.costs) = [[5], []] ∧
      (thrift.run (spendCourse ++ [Sample.tick])).fleet.monitor.stats.lastTickNanos = 5 :=
  ⟨leads_run thrift _, by rfl, by rfl⟩

end Stage

end TurtleFleet
