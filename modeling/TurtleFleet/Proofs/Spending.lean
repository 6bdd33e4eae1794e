import Mathlib.Algebra.GroupWithZero.Nat
import TurtleFleet.Proofs.Fairness

/-! Spending: what the commands of each tick take of a work budget, and what its record says of them.
A command may start as long as those before it in the tick have not spent the whole allowance, so
that only the last one can exceed it. The record is the sum of what was spent in all ticks, although
it is kept command by command. -/

namespace TurtleFleet

variable {C W : Type}

theorem cappedAdd_min (sum nanos : Nat) :
    cappedAdd (min sum countCap) nanos = min (sum + nanos) countCap := by
  unfold cappedAdd
  omega

/-- Capping a sum does not hide whether it reaches a number of a word. -/
theorem min_countCap_lt {granted : Nat} (word : granted < word64) (sum : Nat) :
    min sum countCap < granted ↔ sum < granted := by
  unfold countCap word64 at *
  omega

/-! ### The record of a budget -/

namespace WorkStats

/-- The record of ticks whose commands took the given times, under an allowance for each tick. Every
count is held at the largest one of a word. -/
def ofTicks (allowance : Nat) (ticks : List (List Nat)) : WorkStats where
  ticks := min ticks.length countCap
  commandsExecuted := min ticks.flatten.length countCap
  totalNanos := min ticks.flatten.sum countCap
  maxNanos := ticks.flatten.foldl max 0
  lastTickNanos := min ((ticks.filter (· ≠ [])).getLast?.getD []).sum countCap
  exhaustedTicks := min (ticks.countP (allowance ≤ ·.sum)) countCap

variable {granted : Nat}

theorem ofTicks_begin (funded : 0 < granted) (ticks : List (List Nat)) :
    ofTicks granted (ticks ++ [[]]) =
      { ofTicks granted ticks with ticks := cappedAdd (ofTicks granted ticks).ticks 1 } := by
  simp [ofTicks, cappedAdd_min, Nat.ne_of_gt funded]

/-- One more command counts at once for its tick and for all ticks. Its tick becomes an exhausted one
if it was none before. -/
theorem ofTicks_spend {ticks : List (List Nat)} {costs : List Nat} {before : WorkStats}
    (recorded : before = ofTicks granted (ticks ++ [costs])) (nanos : Nat) :
    ofTicks granted (ticks ++ [costs ++ [nanos]]) =
      { before with
        commandsExecuted := cappedAdd before.commandsExecuted 1
        totalNanos := cappedAdd before.totalNanos nanos
        maxNanos := max before.maxNanos nanos
        lastTickNanos := min (costs.sum + nanos) countCap
        exhaustedTicks :=
          if costs.sum < granted ∧ granted ≤ costs.sum + nanos then
            cappedAdd before.exhaustedTicks 1
          else before.exhaustedTicks } := by
  have crossed (count : Nat) : min (count + if granted ≤ costs.sum + nanos then 1 else 0) countCap =
      if costs.sum < granted ∧ granted ≤ costs.sum + nanos then
        min ((count + if granted ≤ costs.sum then 1 else 0) + 1) countCap
      else min (count + if granted ≤ costs.sum then 1 else 0) countCap := by grind
  subst recorded
  simp [ofTicks, cappedAdd_min, crossed, ← Nat.add_assoc]

end WorkStats

namespace WorkBudget

/-- The budget between two ticks, after ticks whose commands took the given times. -/
structure Settled (granted : Nat) (ticks : List (List Nat)) (budget : WorkBudget) : Prop where
  allowance : budget.allowance = some granted
  stats : budget.stats = .ofTicks granted ticks

/-- The budget during a tick, in which commands have taken the given times after earlier ticks. -/
structure Running (granted : Nat) (ticks : List (List Nat)) (costs : List Nat)
    (budget : WorkBudget) : Prop where
  spent : budget.spent = min costs.sum countCap
  exhausted : budget.exhausted = decide (granted ≤ costs.sum)
  settled : Settled granted (ticks ++ [costs]) budget

variable {granted : Nat} {ticks : List (List Nat)} {costs : List Nat} {budget : WorkBudget}

theorem settled_ofNanos (granted : Nat) : Settled granted [] (.ofNanos granted) := ⟨rfl, rfl⟩

theorem Settled.beginTick (funded : 0 < granted) (settled : Settled granted ticks budget) :
    Running granted ticks [] budget.beginTick where
  spent := rfl
  exhausted := (decide_eq_false (Nat.not_le_of_lt funded)).symm
  settled := ⟨settled.allowance, by
    rw [WorkStats.ofTicks_begin funded, ← settled.stats]
    rfl⟩

theorem Running.canWork_eq (word : granted < word64) (running : Running granted ticks costs budget) :
    budget.canWork = decide (costs.sum < granted) := by
  simp only [canWork, running.settled.allowance, running.spent, min_countCap_lt word]

theorem Running.trackWork (word : granted < word64) (running : Running granted ticks costs budget)
    (nanos : Nat) : Running granted ticks (costs ++ [nanos]) (budget.trackWork nanos) := by
  have stats := WorkStats.ofTicks_spend running.settled.stats nanos
  unfold WorkBudget.trackWork
  simp only [canWork, running.settled.allowance, running.spent, running.exhausted, cappedAdd_min,
    min_countCap_lt word, Bool.and_eq_true, Bool.not_eq_true', decide_eq_false_iff_not, Nat.not_le,
    Nat.not_lt]
  split
  · rename_i crossed
    refine ⟨by simp, ?_, rfl, ?_⟩
    · simpa using crossed.2
    · rw [stats, if_pos crossed]
  · rename_i same
    refine ⟨by simp, ?_, rfl, ?_⟩
    · rw [List.sum_append, List.sum_singleton, decide_eq_decide]
      omega
    · rw [stats, if_neg same]

end WorkBudget

/-! ### The costs of a tick -/

/-- The times that the commands of a report took, in the order in which they were started, if the
command of each turtle took the given time. -/
def TickReport.costs (report : TickReport) (nanos : TurtleId → Nat) : List Nat :=
  report.executed.map fun started => nanos started.turtleId

variable [Command C] [World W] {granted : Nat} {ticks : List (List Nat)}

namespace Round

/-- A round with a work budget, after earlier ticks. -/
structure Budgeted (granted : Nat) (ticks : List (List Nat)) (nanos : TurtleId → Nat)
    (round : Round C WorkBudget W) : Prop where
  running : round.stage.fleet.monitor.Running granted ticks (round.report.costs nanos)
  /-- All commands but the last one fit into the allowance. -/
  within : (round.report.costs nanos).dropLast.sum < granted
  /-- Commands are deferred only when the allowance is spent. -/
  spent : round.report.deferred ≠ [] → granted ≤ (round.report.costs nanos).sum

variable {nanos : TurtleId → Nat} {round : Round C WorkBudget W}

theorem Budgeted.visit (word : granted < word64) (budgeted : round.Budgeted granted ticks nanos)
    (id : TurtleId) : (round.visit id (nanos id)).Budgeted granted ticks nanos := by
  have visits := visits_visit round id (nanos id)
  generalize round.visit id (nanos id) = left at visits ⊢
  have asked (answer : Bool) (monitor : WorkBudget)
      (asked : WorkMonitor.canWork round.stage.fleet.monitor = (answer, monitor)) :
      monitor = round.stage.fleet.monitor ∧
        answer = decide ((round.report.costs nanos).sum < granted) := by
    obtain ⟨answered, same⟩ := Prod.mk.inj asked
    exact ⟨same.symm, answered.symm.trans (budgeted.running.canWork_eq word)⟩
  cases visits with
  | absent missing => exact budgeted
  | busy found plays => exact ⟨budgeted.running, budgeted.within, budgeted.spent⟩
  | idle found still empty => exact ⟨budgeted.running, budgeted.within, budgeted.spent⟩
  | deferred found still waiting denied =>
    obtain ⟨rfl, full⟩ := asked _ _ denied
    refine ⟨budgeted.running, budgeted.within, fun _ => ?_⟩
    exact Nat.le_of_not_lt (of_decide_eq_false full.symm)
  | @executed member entry rest monitor found still waiting allowed =>
    obtain ⟨rfl, free⟩ := asked _ _ allowed
    have room := of_decide_eq_true free.symm
    have costs : (((round.wake id member).2.watched round.stage.fleet.monitor).execute id
        { member.woken id round.stage.fleet.time with queue := { member.queue with entries := rest } }
        entry (nanos id)).report.costs nanos = round.report.costs nanos ++ [nanos id] := by
      simp [TickReport.costs, execute, watched]
    refine ⟨?_, ?_, fun denied => ?_⟩
    · rw [costs]
      exact budgeted.running.trackWork word (nanos id)
    · rw [costs, List.dropLast_concat]
      exact room
    · exact absurd room (Nat.not_lt_of_le (budgeted.spent denied))

theorem Budgeted.turns (word : granted < word64) (arrivals : TurtleId → List (Submitter × C))
    (budgeted : round.Budgeted granted ticks nanos) (ids : List TurtleId) :
    (ids.foldl (turn arrivals nanos) round).Budgeted granted ticks nanos := by
  induction ids generalizing round with
  | nil => exact budgeted
  | cons id rest ih =>
    obtain ⟨members, retired, taken⟩ := round.stage.fleet.takeIn_eq (arrivals id)
    have ready : (round.takeIn (arrivals id)).Budgeted granted ticks nanos := by
      refine ⟨?_, budgeted.within, budgeted.spent⟩
      simp only [takeIn, taken]
      exact budgeted.running
    exact ih (ready.visit word id)

end Round

/-! ### The bills of a course -/

/-- The report of a tick in which the command of each turtle took the given time. -/
structure TickBill where
  report : TickReport
  nanos : TurtleId → Nat

def TickBill.costs (bill : TickBill) : List Nat := bill.report.costs bill.nanos

/-- The tick keeps to the budget of which so much is granted. -/
structure TickBill.Keeps (granted : Nat) (bill : TickBill) : Prop where
  /-- All commands but the last one fit into the allowance. -/
  within : bill.costs.dropLast.sum < granted
  /-- Commands are deferred only when the allowance is spent. -/
  spent : bill.report.deferred ≠ [] → granted ≤ bill.costs.sum

namespace Stage

def billed (stage : Stage C WorkBudget W) : Deed C W → List TickBill
  | .tick arrivals nanos =>
    (stage.reported (.tick arrivals nanos)).map fun report => { report, nanos }
  | _ => []

def bills (stage : Stage C WorkBudget W) (course : List (Deed C W)) : List TickBill :=
  collect billed stage course

theorem report_bills (stage : Stage C WorkBudget W) (course : List (Deed C W)) :
    (stage.bills course).map (·.report) = stage.reports course := by
  induction course generalizing stage with
  | nil => rfl
  | cons deed rest ih =>
    have now : (stage.billed deed).map (·.report) = stage.reported deed := by
      cases deed with
      | tick arrivals nanos => rfl
      | _ => rfl
    rw [bills, collect, List.map_append, now, reports, collect]
    exact congrArg _ (ih (stage.next deed))

theorem monitor_next_of_untimed (stage : Stage C WorkBudget W) {deed : Deed C W}
    (whole : ¬ stage.Breaks deed.perform) (untimed : deed.isTick = false) :
    (stage.next deed).fleet.monitor = stage.fleet.monitor := by
  have does := stage.does_next deed whole
  generalize stage.next deed = after at does ⊢
  cases does with
  | submitted submitter command => exact (Fleet.Rests.takeIn _ [(submitter, command)]).monitor
  | @submittedFor id member command found =>
    exact (Fleet.Rests.takeIn _ [(⟨id, member.registration⟩, command)]).monitor
  | ticked arrivals nanos => cases untimed
  | _ => rfl

theorem budgeted_tickRound {stage : Stage C WorkBudget W} (funded : 0 < granted)
    (word : granted < word64) (settled : stage.fleet.monitor.Settled granted ticks)
    (arrivals : TurtleId → List (Submitter × C)) (nanos : TurtleId → Nat) :
    (Operation.tickRound arrivals nanos stage).Budgeted granted ticks nanos := by
  have opened : (Operation.opened stage).Budgeted granted ticks nanos :=
    ⟨settled.beginTick funded, funded, fun deferred => (deferred rfl).elim⟩
  exact opened.turns word arrivals stage.fleet.visitOrder

theorem bills_of_leads {stage last : Stage C WorkBudget W} {course : List (Deed C W)}
    (funded : 0 < granted) (word : granted < word64)
    (settled : stage.fleet.monitor.Settled granted ticks) (led : stage.Leads course last) :
    (∀ bill ∈ stage.bills course, bill.Keeps granted) ∧
      last.fleet.monitor.Settled granted (ticks ++ (stage.bills course).map (·.costs)) := by
  induction led generalizing ticks with
  | rest stage => exact ⟨nofun, by simpa [bills, collect] using settled⟩
  | @step stage last deed deeds whole later ih =>
    rcases timed : deed.isTick with _ | _
    · have none : stage.billed deed = [] := by
        cases deed with
        | tick arrivals nanos => cases timed
        | _ => rfl
      rw [← stage.monitor_next_of_untimed whole timed] at settled
      rw [bills, collect, none]
      exact ih settled
    · cases deed with
      | tick arrivals nanos =>
        have budgeted := budgeted_tickRound funded word settled arrivals nanos
        obtain ⟨others, done⟩ := ih budgeted.running.settled
        refine ⟨List.forall_mem_cons.mpr ⟨⟨budgeted.within, budgeted.spent⟩, others⟩, ?_⟩
        rw [List.append_assoc] at done
        exact done
      | _ => cases timed

theorem length_bills (stage : Stage C WorkBudget W) (course : List (Deed C W)) :
    (stage.bills course).length = course.countP (·.isTick) := by
  induction course generalizing stage with
  | nil => rfl
  | cons deed rest ih =>
    have now : (stage.billed deed).length = if deed.isTick then 1 else 0 := by
      cases deed with
      | tick arrivals nanos => rfl
      | _ => rfl
    rw [bills, collect, List.length_append, now, List.countP_cons, Nat.add_comm]
    exact congrArg (· + _) (ih (stage.next deed))

/-- A budget is kept, and its books are right. In every tick all commands but the last one fit into
the allowance, and commands are deferred only when it is spent. After every course the record is that
of the times which the commands of its ticks took: how many ticks and commands there were, how long
they took in all and at most, and how many ticks spent the whole allowance. The counts are held at the
largest one of a word, below which they are exact. -/
theorem spending_within_budget {start last : Stage C WorkBudget W} {course : List (Deed C W)}
    {granted : Nat} (budget : start.fleet.monitor = .ofNanos granted) (funded : 0 < granted)
    (word : granted < word64) (led : start.Leads course last) :
    (start.bills course).length = course.countP (·.isTick) ∧
    (start.bills course).map (·.report) = start.reports course ∧
    (∀ bill ∈ start.bills course, bill.costs.dropLast.sum < granted ∧
      (bill.report.deferred ≠ [] → granted ≤ bill.costs.sum)) ∧
    last.fleet.monitor.stats = .ofTicks granted ((start.bills course).map (·.costs)) ∧
    (course.countP (·.isTick) < word64 →
      last.fleet.monitor.stats.ticks = course.countP (·.isTick) ∧
      last.fleet.monitor.stats.exhaustedTicks =
        (start.bills course).countP (granted ≤ ·.costs.sum)) ∧
    (((start.bills course).flatMap (·.costs)).length < word64 →
      last.fleet.monitor.stats.commandsExecuted =
        ((start.bills course).flatMap (·.costs)).length) := by
  have settled : start.fleet.monitor.Settled granted [] :=
    budget ▸ WorkBudget.settled_ofNanos granted
  obtain ⟨kept, done⟩ := bills_of_leads funded word settled led
  have length := start.length_bills course
  refine ⟨length, start.report_bills course, fun bill listed => ⟨(kept bill listed).within,
    (kept bill listed).spent⟩, done.stats, fun few => ?_, fun few => ?_⟩
  · have some : (start.bills course).countP (granted ≤ ·.costs.sum) ≤ (start.bills course).length :=
      List.countP_le_length
    rw [done.stats]
    simp only [WorkStats.ofTicks, List.nil_append, List.length_map, List.countP_map]
    unfold countCap word64 at *
    exact ⟨by omega, Nat.min_eq_left (Nat.le_trans some (by omega))⟩
  · rw [done.stats]
    simp only [WorkStats.ofTicks, List.nil_append, ← List.flatMap_def]
    unfold countCap word64 at *
    omega

/-- A fleet whose turtles share five nanoseconds a tick. -/
def thrift : Stage TurtleCommand WorkBudget MemoryWorld :=
  { Sample.stage with fleet := { Sample.fleet with monitor := .ofNanos 5 } }

/-- Three turtles are asked for their fuel. The first two overspend, and the third one has to wait. -/
def thriftCourse : List (Deed TurtleCommand MemoryWorld) :=
  [.register { Sample.scout with turtleId := "ada", pos := ⟨1, 64, 0⟩ },
    .register { Sample.scout with turtleId := "bob", pos := ⟨2, 64, 0⟩ },
    .register { Sample.scout with turtleId := "cid", pos := ⟨3, 64, 0⟩ },
    .submit "ada" .getFuelLevel, .submit "bob" .getFuelLevel, .submit "cid" .getFuelLevel,
    .tick (fun _ => []) (fun id => if id = "cid" then 1 else 4),
    .tick (fun _ => []) (fun id => if id = "cid" then 1 else 4)]

theorem spending_within_budget_thrift :
    thrift.fleet.monitor = .ofNanos 5 ∧ thrift.Leads thriftCourse (thrift.run thriftCourse) ∧
      (thrift.bills thriftCourse).map (·.costs) = [[4, 4], [1]] ∧
      (thrift.bills thriftCourse).map (·.report.deferred) = [["cid"], []] ∧
      (thrift.run thriftCourse).fleet.monitor.stats = .ofTicks 5 [[4, 4], [1]] ∧
      WorkStats.ofTicks 5 [[4, 4], [1]] =
        { ticks := 2, commandsExecuted := 3, totalNanos := 9, maxNanos := 4, lastTickNanos := 1,
          exhaustedTicks := 1 } := by
  have led := leads_run thrift thriftCourse
  have costs : (thrift.bills thriftCourse).map (·.costs) = [[4, 4], [1]] := by rfl
  have budget : thrift.fleet.monitor = .ofNanos 5 := rfl
  obtain ⟨_, _, _, stats, _⟩ := spending_within_budget budget (by decide) (by decide) led
  rw [costs] at stats
  exact ⟨budget, led, costs, by rfl, stats, by decide⟩

end Stage

end TurtleFleet
