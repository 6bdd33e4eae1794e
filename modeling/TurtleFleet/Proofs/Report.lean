import Mathlib.Data.List.Basic
import Mathlib.Tactic.Choose
import TurtleFleet.Proofs.Fairness
import TurtleFleet.Proofs.Reach

/-! The report of a tick against the stages before and after it. The report is filled along the way, at
one visit after the other; the main statement reads it off the two stages and off the events that went
out in between. Every visit adds to the report, and what it adds can be told from the visited turtle
alone. -/

namespace TurtleFleet

variable {C M W : Type}

/-! ### Lists that are put together -/

/-- Each of some values contributes itself or nothing. -/
theorem flatMap_eq_filter {α : Type} {values : List α} {part : α → List α} {chosen : α → Bool}
    (each : ∀ value ∈ values, part value = if chosen value then [value] else []) :
    values.flatMap part = values.filter chosen := by
  induction values with
  | nil => rfl
  | cons value rest ih =>
    rw [List.flatMap_cons, each value List.mem_cons_self,
      ih fun other listed => each other (List.mem_cons_of_mem _ listed), List.filter_cons]
    split <;> rfl

theorem length_flatMap_add {α β γ δ : Type} {values : List α} {part : α → List β} {first : α → List γ}
    {second : α → List δ}
    (each : ∀ value ∈ values, (part value).length = (first value).length + (second value).length) :
    (values.flatMap part).length = (values.flatMap first).length + (values.flatMap second).length := by
  induction values with
  | nil => rfl
  | cons value rest ih =>
    have head := each value List.mem_cons_self
    have tail := ih fun other listed => each other (List.mem_cons_of_mem _ listed)
    simp only [List.flatMap_cons, List.length_append]
    omega

/-! ### Events -/

def Signal.event? : Signal → Option Event
  | published event => some event
  | effect _ => none
  | closed _ => none

/-- The events among some signals, in the order in which they went out. -/
def announced (signals : List Signal) : List Event := signals.filterMap Signal.event?

@[simp] theorem announced_append (first second : List Signal) :
    announced (first ++ second) = announced first ++ announced second :=
  List.filterMap_append

theorem announced_effects {α : Type} (values : List α) (effect : α → Effect) :
    announced (values.map fun value => .effect (effect value)) = [] := by
  rw [announced, List.filterMap_map]
  exact List.filterMap_eq_nil_iff.mpr fun _ _ => rfl

theorem announced_published (responses : List Response) (id : TurtleId) :
    announced (responses.map fun response => .published (response.toEvent id)) =
      responses.map (·.toEvent id) := by
  rw [announced, List.filterMap_map, ← List.filterMap_eq_map]
  rfl

/-! ### One visit -/

namespace Round

/-- What a part of a tick adds to the report, with the held responses that go out during it and all
events. -/
structure Adds (before after : Round C M W) (executed : List ExecutedCommand)
    (delivered : List Response) (deferred : List TurtleId) (events : List Event) : Prop where
  executed : after.report.executed = before.report.executed ++ executed
  completed : after.report.completed = before.report.completed + delivered.length
  deferred : after.report.deferred = before.report.deferred ++ deferred
  seen : ∃ news, after.stage.signals = before.stage.signals ++ news ∧ announced news = events

namespace Adds

variable {before between after : Round C M W} {executed later : List ExecutedCommand}
  {delivered released : List Response} {deferred denied : List TurtleId} {events tidings : List Event}

theorem trans (first : Adds before between executed delivered deferred events)
    (second : Adds between after later released denied tidings) :
    Adds before after (executed ++ later) (delivered ++ released) (deferred ++ denied)
      (events ++ tidings) := by
  obtain ⟨news, seen, said⟩ := first.seen
  obtain ⟨further, seenThen, saidThen⟩ := second.seen
  refine ⟨?_, ?_, ?_, news ++ further, ?_, by rw [announced_append, said, saidThen]⟩
  · rw [second.executed, first.executed, List.append_assoc]
  · rw [second.completed, first.completed, List.length_append, Nat.add_assoc]
  · rw [second.deferred, first.deferred, List.append_assoc]
  · rw [seenThen, seen, List.append_assoc]

theorem takeIn (round : Round C M W) (arrivals : List (Submitter × C)) :
    Adds round (round.takeIn arrivals) [] [] [] [] := by
  obtain ⟨_, signals, report, _⟩ := round.takeIn_stage arrivals
  exact ⟨by rw [report, List.append_nil], by rw [report]; rfl, by rw [report, List.append_nil],
    [], by rw [signals, List.append_nil], rfl⟩

end Adds

variable [Command C]

/-- What a visit makes of a turtle, with the commands that it starts, whether it defers the turtle, and
the events that go out. -/
inductive Treats (id : TurtleId) (member : Member C) :
    Member C → List ExecutedCommand → List TurtleId → List Event → Prop where
  | busy (time : Nat) (goesOn : member.turtle.animation.tick.1 = true) :
      Treats id member (member.woken id time) [] [] []
  | idle (time : Nat) (still : member.turtle.animation.tick.1 = false)
      (empty : member.queue.entries = []) :
      Treats id member (member.woken id time) [] [] (member.delivery.toList.map (·.toEvent id))
  | deferred {entry : QueueEntry C} {rest : List (QueueEntry C)} (time : Nat)
      (still : member.turtle.animation.tick.1 = false) (waiting : member.queue.entries = entry :: rest) :
      Treats id member (member.woken id time) [] [id] (member.delivery.toList.map (·.toEvent id))
  | executed {entry : QueueEntry C} {rest : List (QueueEntry C)}
      (still : member.turtle.animation.tick.1 = false) (waiting : member.queue.entries = entry :: rest)
      (turtle : Turtle) (pending : Option Response) (result : Except Stop (List Json)) :
      Treats id member
        { member with turtle, queue := { member.queue with entries := rest }, pending }
        [{ turtleId := id, id := entry.id, command := Command.name entry.command,
           success := result.isOk }] []
        (member.delivery.toList.map (·.toEvent id) ++
          if turtle.animation.playing then [] else [(Response.ofResult entry.id result).toEvent id])

omit [Command C] in
theorem adds_wake (round : Round C M W) (id : TurtleId) (member : Member C) :
    Adds round (round.wake id member).2 [] member.delivery.toList []
      (member.delivery.toList.map (·.toEvent id)) := by
  refine ⟨(List.append_nil _).symm, round.wake_completed id member, (List.append_nil _).symm, _,
    round.wake_signals id member, ?_⟩
  rw [announced_append, announced_effects, announced_published, List.nil_append]

variable [World W] [WorkMonitor M]

theorem adds_execute (round : Round C M W) (id : TurtleId) (member : Member C) (entry : QueueEntry C)
    (nanos : Nat) :
    ∃ turtle pending result,
      Adds round (round.execute id member entry nanos)
        [{ turtleId := id, id := entry.id, command := Command.name entry.command,
           success := Except.isOk result }] [] []
        (if turtle.animation.playing then [] else [(Response.ofResult entry.id result).toEvent id]) ∧
      (round.execute id member entry nanos).stage.fleet.members.get? id =
        some { member with turtle, pending } := by
  rcases ran : (Command.execute entry.command round.stage.fleet.context).outcome
    { turtle := member.turtle, world := round.stage.world,
      otherMovers := round.stage.fleet.moversExcept id } with ⟨result, scene⟩
  have left : round.execute id member entry nanos = _ := round.execute_of_ran member ran nanos
  rw [left]
  refine ⟨scene.turtle, _, result, ⟨rfl, rfl, (List.append_nil _).symm, _, List.append_assoc .., ?_⟩,
    Keyed.get?_insert_self ..⟩
  have silent : announced (scene.effects.map .effect) = [] :=
    announced_effects scene.effects fun effect => effect
  rw [announced_append, silent, List.nil_append]
  split
  · rfl
  · rfl

theorem treats_visit {round : Round C M W} {id : TurtleId} {member : Member C}
    (found : round.stage.fleet.members.get? id = some member) (nanos : Nat) :
    ∃ served executed deferred events,
      Treats id member served executed deferred events ∧
      Adds round (round.visit id nanos) executed member.delivery.toList deferred events ∧
      (round.visit id nanos).stage.fleet.members.get? id = some served := by
  have visits := visits_visit round id nanos
  generalize round.visit id nanos = left at visits ⊢
  have woken := adds_wake round id member
  have self : (round.wake id member).2.stage.fleet.members.get? id =
      some (member.woken id round.stage.fleet.time) := Keyed.get?_insert_self ..
  cases visits with
  | absent missing =>
    rw [missing] at found
    cases found
  | busy same plays =>
    cases found.symm.trans same
    rw [Member.playing_woken] at plays
    have silent : member.delivery = none := by simp [Member.delivery, plays]
    rw [silent] at woken
    exact ⟨_, [], [], [], .busy _ plays, silent ▸ woken, self⟩
  | idle same still empty =>
    cases found.symm.trans same
    rw [Member.playing_woken] at still
    exact ⟨_, _, _, _, .idle _ still empty, woken, self⟩
  | deferred same still waiting denied =>
    cases found.symm.trans same
    rw [Member.playing_woken] at still
    exact ⟨_, _, _, _, .deferred _ still waiting,
      ⟨woken.executed, woken.completed, rfl, woken.seen⟩, self⟩
  | @executed _ entry rest monitor same still waiting allowed =>
    cases found.symm.trans same
    rw [Member.playing_woken] at still
    let worker : Member C :=
      { member.woken id round.stage.fleet.time with queue := { member.queue with entries := rest } }
    obtain ⟨turtle, pending, result, ran, served⟩ :=
      adds_execute ((round.wake id member).2.watched monitor) id worker entry nanos
    have runs : Adds (round.wake id member).2
        (((round.wake id member).2.watched monitor).execute id worker entry nanos) _ [] [] _ :=
      ⟨ran.executed, ran.completed, ran.deferred, ran.seen⟩
    have started := woken.trans runs
    rw [List.nil_append, List.append_nil, List.append_nil] at started
    refine ⟨_, _, _, _, .executed still waiting turtle pending result, started, ?_⟩
    rw [served, Member.woken_registration]

/-! ### What a visit adds, told from the turtle -/

namespace Treats

omit [World W] [WorkMonitor M]

variable {id : TurtleId} {member served : Member C} {executed : List ExecutedCommand}
  {deferred : List TurtleId} {events : List Event}
  (treats : Treats id member served executed deferred events)

include treats

theorem map_turtleId : executed.map (·.turtleId) = if executed.isEmpty then [] else [id] := by
  cases treats <;> rfl

theorem turtleId_eq {record : ExecutedCommand} (listed : record ∈ executed) :
    record.turtleId = id := by
  have named := List.mem_map_of_mem (f := (·.turtleId)) listed
  rw [treats.map_turtleId] at named
  split at named
  · cases named
  · exact List.mem_singleton.mp named

/-- Only the oldest entry of the queue is started. -/
theorem popped : ∃ popped : List (QueueEntry C), popped.length ≤ 1 ∧
    member.queue.entries = popped ++ served.queue.entries ∧
    served.queue = { member.queue with entries := served.queue.entries } ∧
    executed.map (fun record => (record.turtleId, record.id, record.command)) =
      popped.map fun entry => (id, entry.id, Command.name entry.command) := by
  cases treats with
  | busy time goesOn => exact ⟨[], Nat.zero_le _, by simp, by simp, rfl⟩
  | idle time still empty => exact ⟨[], Nat.zero_le _, by simp, by simp, rfl⟩
  | deferred time still waiting => exact ⟨[], Nat.zero_le _, by simp, by simp, rfl⟩
  | @executed entry rest still waiting turtle pending result =>
    exact ⟨[entry], Nat.le_refl _, waiting, rfl, rfl⟩

/-- A turtle is deferred if it has another command to start, and could start it. -/
theorem deferred_eq : deferred =
    if executed.isEmpty && !served.turtle.animation.playing && !served.queue.entries.isEmpty then [id]
    else [] := by
  cases treats with
  | busy time goesOn => simp [Member.playing_woken, goesOn]
  | idle time still empty => simp [empty]
  | deferred time still waiting => simp [Member.playing_woken, still, waiting]
  | executed still waiting turtle pending result => rfl

theorem eq_of_mem_deferred {other : TurtleId} (listed : other ∈ deferred) : other = id := by
  rw [treats.deferred_eq] at listed
  split at listed
  · exact List.mem_singleton.mp listed
  · cases listed

theorem length_events : events.length = member.delivery.toList.length +
    if executed.isEmpty || served.turtle.animation.playing then 0 else 1 := by
  cases treats with
  | busy time goesOn => simp [Member.delivery, goesOn]
  | idle time still empty => simp
  | deferred time still waiting => simp
  | executed still waiting turtle pending result =>
    rw [List.length_append, List.length_map]
    cases turtle.animation.playing <;> rfl

theorem event_eq {event : Event} (listed : event ∈ events) :
    ∃ response, event = Response.toEvent response id := by
  have delivered (given : event ∈ member.delivery.toList.map (·.toEvent id)) :
      ∃ response, event = Response.toEvent response id := by
    obtain ⟨response, _, same⟩ := List.mem_map.mp given
    exact ⟨response, same.symm⟩
  cases treats with
  | busy time goesOn => cases listed
  | idle time still empty => exact delivered listed
  | deferred time still waiting => exact delivered listed
  | executed still waiting turtle pending result =>
    rcases List.mem_append.mp listed with given | answered
    · exact delivered given
    · split at answered
      · cases answered
      · exact ⟨_, List.mem_singleton.mp answered⟩

theorem mem_events {response : Response} (given : member.delivery = some response) :
    response.toEvent id ∈ events := by
  have listed : response.toEvent id ∈ member.delivery.toList.map (·.toEvent id) := by
    simp [given]
  cases treats with
  | busy time goesOn => simp [Member.delivery, goesOn] at given
  | idle time still empty => exact listed
  | deferred time still waiting => exact listed
  | executed still waiting turtle pending result => exact List.mem_append_left _ listed

/-- As long as its animation goes on nothing becomes of a turtle. -/
theorem nothing (goesOn : member.turtle.animation.tick.1 = true) :
    executed = [] ∧ deferred = [] ∧ events = [] := by
  cases treats with
  | busy time goesOn => exact ⟨rfl, rfl, rfl⟩
  | idle time still empty => simp [goesOn] at still
  | deferred time still waiting => simp [goesOn] at still
  | executed still waiting turtle pending result => simp [goesOn] at still

end Treats

end Round

/-! ### All visits -/

/-- The commands that come in for a turtle after its visit. -/
def Fleet.lateFor (fleet : Fleet C M) (arrivals : TurtleId → List (Submitter × C)) (id : TurtleId) :
    List C :=
  match fleet.members.get? id with
  | some member =>
    addressed (member.handle id) ((fleet.visitOrder.dropWhile (· ≠ id)).tail.flatMap arrivals)
  | none => []

namespace Operation

variable [Command C] [World W] [WorkMonitor M]
variable (arrivals : TurtleId → List (Submitter × C)) (nanos : TurtleId → Nat)

/-- What a tick adds is what its visits add, one after the other. -/
theorem tickRound_adds {stage : Stage C M W} {executed : TurtleId → List ExecutedCommand}
    {delivered : TurtleId → List Response} {deferred : TurtleId → List TurtleId}
    {events : TurtleId → List Event}
    (each : ∀ id ∈ stage.fleet.visitOrder, Round.Adds (reached arrivals nanos stage id)
      ((reached arrivals nanos stage id).visit id (nanos id))
      (executed id) (delivered id) (deferred id) (events id)) :
    Round.Adds (opened stage) (tickRound arrivals nanos stage)
      (stage.fleet.visitOrder.flatMap executed) (stage.fleet.visitOrder.flatMap delivered)
      (stage.fleet.visitOrder.flatMap deferred) (stage.fleet.visitOrder.flatMap events) := by
  refine tickRound_of_visits arrivals nanos (fun ids round =>
    Round.Adds (opened stage) round (ids.flatMap executed) (ids.flatMap delivered)
      (ids.flatMap deferred) (ids.flatMap events))
    ⟨rfl, rfl, rfl, [], (List.append_nil _).symm, rfl⟩ ?_
  intro first id round listed before ready
  have visited := (ready ▸ before.trans (.takeIn round (arrivals id))).trans (each id listed)
  simp only [List.append_nil] at visited
  simp only [List.flatMap_append, List.flatMap_singleton]
  exact visited

end Operation

namespace Operation

variable [Command C] [World W] [WorkMonitor M]

/-- What is known of the visit of a turtle and of what it adds, and of the turtle after the tick. -/
structure Treated (arrivals : TurtleId → List (Submitter × C)) (nanos : TurtleId → Nat)
    (stage : Stage C M W) (id : TurtleId) (member : Member C) (executed : List ExecutedCommand)
    (deferred : List TurtleId) (events : List Event) (early : List C) (served : Member C) : Prop where
  treats : Round.Treats id (member.takeIn early) served executed deferred events
  adds : Round.Adds (reached arrivals nanos stage id)
    ((reached arrivals nanos stage id).visit id (nanos id)) executed member.delivery.toList deferred
    events
  found : (tickRound arrivals nanos stage).stage.fleet.members.get? id =
    some (served.takeIn (stage.fleet.lateFor arrivals id))
  started : (tickRound arrivals nanos stage).report.startedFor id = executed
  split : early ++ stage.fleet.lateFor arrivals id =
    addressed (member.handle id) (stage.fleet.visitOrder.flatMap arrivals)

theorem exists_treated (arrivals : TurtleId → List (Submitter × C)) (nanos : TurtleId → Nat)
    {stage : Stage C M W} {id : TurtleId} {member : Member C}
    (found : stage.fleet.members.get? id = some member) :
    ∃ executed deferred events early served,
      Treated arrivals nanos stage id member executed deferred events early served := by
  obtain ⟨first, second, split⟩ :=
    List.append_of_mem ((stage.fleet.mem_visitOrder id).mpr (Option.isSome_of_eq_some found))
  obtain ⟨notEarlier, _⟩ := Fleet.not_mem_of_visitOrder split
  have late : stage.fleet.lateFor arrivals id =
      addressed (member.handle id) (second.flatMap arrivals) := by
    have others : ∀ other ∈ first, decide (other ≠ id) = true := fun other listed =>
      decide_eq_true fun same => notEarlier (same ▸ listed)
    rw [Fleet.lateFor, found, split, List.dropWhile_append_of_pos others,
      List.dropWhile_cons_of_neg (by simp)]
    rfl
  have reaches := reaches_of_split arrivals nanos found split
  rw [← late] at reaches
  obtain ⟨served, executed, deferred, events, treats, adds, foundThen⟩ :=
    Round.treats_visit reaches.found (nanos id)
  refine ⟨executed, deferred, events, _, served, treats, adds, ?_, ?_, reaches.split⟩
  · rw [reaches.foundAfter, foundThen]
    rfl
  · rw [reaches.startedAfter, TickReport.startedFor, adds.executed, List.filter_append,
      ← TickReport.startedFor, reaches.unstarted, List.nil_append, List.filter_eq_self]
    exact fun record listed => decide_eq_true (treats.turtleId_eq listed)

end Operation

/-! ### The report -/

namespace Fleet

/-- The queue of a registered turtle. -/
def entriesOf (fleet : Fleet C M) (id : TurtleId) : List (QueueEntry C) :=
  ((fleet.members.get? id).map (·.queue.entries)).getD []

/-- A registered turtle plays no animation. -/
def idles (fleet : Fleet C M) (id : TurtleId) : Bool :=
  (fleet.members.get? id).any fun member => !member.turtle.animation.playing

end Fleet

/-- A report of a tick that is exact about the fleet before it and after it, and about the events that
went out. -/
structure TickReport.Exact [Command C] (report : TickReport) (before after : Fleet C M)
    (arrivals : TurtleId → List (Submitter × C)) (events : List Event) : Prop where
  once : (report.executed.map (·.turtleId)).Nodup
  /-- The commands that left the queues, each as the oldest one of its queue. -/
  executed : ∃ popped : TurtleId → List (QueueEntry C),
    (∀ id, (popped id).length ≤ 1 ∧
      (before.takeIn (before.visitOrder.flatMap arrivals)).entriesOf id =
        popped id ++ after.entriesOf id) ∧
    report.executed.map (fun record => (record.turtleId, record.id, record.command)) =
      before.visitOrder.flatMap fun id =>
        (popped id).map fun entry => (id, entry.id, Command.name entry.command)
  /-- The turtles whose held response went out. -/
  completed : ∃ released : List TurtleId, released.Sublist before.visitOrder ∧
    report.completed = released.length ∧
    ∀ id, id ∈ released ↔ ∃ member response, before.members.get? id = some member ∧
      member.pending = some response ∧ response.toEvent id ∈ events
  /-- Commands that came in for a turtle after its visit do not count as waiting. -/
  deferred : report.deferred = before.visitOrder.filter fun id =>
    after.idles id && (report.startedFor id).isEmpty &&
      decide ((before.lateFor arrivals id).length < (after.entriesOf id).length)
  undisturbed : (∀ id, arrivals id = []) → report.deferred = before.visitOrder.filter fun id =>
    after.idles id && (report.startedFor id).isEmpty && !(after.entriesOf id).isEmpty
  responses : ∀ event ∈ events, ∃ response id, event = Response.toEvent response id
  published : events.length =
    report.completed + (report.executed.filter fun record => after.idles record.turtleId).length
  animated : ∀ id member, before.members.get? id = some member →
    member.turtle.animation.tick.1 = true → report.startedFor id = [] ∧ id ∉ report.deferred

namespace Operation

variable [Command C] [World W] [WorkMonitor M]

namespace Treated

variable {arrivals : TurtleId → List (Submitter × C)} {nanos : TurtleId → Nat} {stage : Stage C M W}
  {id : TurtleId} {member served : Member C} {executed : List ExecutedCommand}
  {deferred : List TurtleId} {events : List Event} {early : List C}
  (treated : Treated arrivals nanos stage id member executed deferred events early served)

include treated

theorem idles : (tickRound arrivals nanos stage).stage.fleet.idles id =
    !served.turtle.animation.playing := by
  rw [Fleet.idles, treated.found]
  rfl

/-- What comes in late waits behind what the visit has left. -/
theorem queue (registered : stage.fleet.members.get? id = some member) {ran waiting : List C}
    {published : List Response} (ledger : Ledger member ran waiting published) :
    ∃ popped fresh : List (QueueEntry C), popped.length ≤ 1 ∧
      fresh.length = (stage.fleet.lateFor arrivals id).length ∧
      (tickRound arrivals nanos stage).stage.fleet.entriesOf id = served.queue.entries ++ fresh ∧
      (stage.fleet.takeIn (stage.fleet.visitOrder.flatMap arrivals)).entriesOf id =
        popped ++ (tickRound arrivals nanos stage).stage.fleet.entriesOf id ∧
      executed.map (fun record => (record.turtleId, record.id, record.command)) =
        popped.map fun entry => (id, entry.id, Command.name entry.command) := by
  obtain ⟨popped, few, split, kept, named⟩ := treated.treats.popped
  have before := ledger.takeIn early
  have left := before.next
  have isOpen := before.isOpen
  let fresh := numbered (ran ++ (waiting ++ early)).length (stage.fleet.lateFor arrivals id)
  have servedNext : served.queue.nextId = submissionNumber (ran ++ (waiting ++ early)).length := by
    rw [kept]
    exact left
  have servedOpen : served.queue.isOpen = true := by
    rw [kept]
    exact isOpen
  have after : (tickRound arrivals nanos stage).stage.fleet.entriesOf id =
      served.queue.entries ++ fresh := by
    rw [Fleet.entriesOf, treated.found, Member.takeIn_open servedNext servedOpen]
    rfl
  refine ⟨popped, fresh, few, length_numbered .., after, ?_, named⟩
  rw [after, ← List.append_assoc, ← split, Fleet.entriesOf, Fleet.get?_takeIn, registered,
    Option.map_some, ← treated.split, Member.takeIn_append, Member.takeIn_open left isOpen]
  rfl

end Treated

/-- What is known of the visits of all registered turtles and of what they add. -/
def Tells (arrivals : TurtleId → List (Submitter × C)) (nanos : TurtleId → Nat) (stage : Stage C M W)
    (executed : TurtleId → List ExecutedCommand) (deferred : TurtleId → List TurtleId)
    (events : TurtleId → List Event) : Prop :=
  ∀ id member, stage.fleet.members.get? id = some member → ∃ early served,
    Treated arrivals nanos stage id member (executed id) (deferred id) (events id) early served

theorem exists_tells (arrivals : TurtleId → List (Submitter × C)) (nanos : TurtleId → Nat)
    (stage : Stage C M W) :
    ∃ executed deferred events, Tells arrivals nanos stage executed deferred events := by
  have each (id : TurtleId) : ∃ executed deferred events, ∀ member,
      stage.fleet.members.get? id = some member → ∃ early served,
        Treated arrivals nanos stage id member executed deferred events early served := by
    by_cases registered : ∃ member, stage.fleet.members.get? id = some member
    · obtain ⟨member, found⟩ := registered
      obtain ⟨executed, deferred, events, early, served, treated⟩ :=
        exists_treated arrivals nanos found
      refine ⟨executed, deferred, events, fun other same => ?_⟩
      rw [found] at same
      rw [← Option.some.inj same]
      exact ⟨early, served, treated⟩
    · exact ⟨[], [], [], fun member found => (registered ⟨member, found⟩).elim⟩
  choose executed deferred events told using each
  exact ⟨executed, deferred, events, told⟩

/-- The held response that goes out on the visit of a turtle. -/
def deliveredFor (fleet : Fleet C M) (id : TurtleId) : Option Response :=
  (fleet.members.get? id).bind Member.delivery

namespace Tells

variable {arrivals : TurtleId → List (Submitter × C)} {nanos : TurtleId → Nat} {stage : Stage C M W}
  {executed : TurtleId → List ExecutedCommand} {deferred : TurtleId → List TurtleId}
  {events : TurtleId → List Event} (tells : Tells arrivals nanos stage executed deferred events)

include tells

theorem of_mem {id : TurtleId} (listed : id ∈ stage.fleet.visitOrder) :
    ∃ member early served, stage.fleet.members.get? id = some member ∧
      Treated arrivals nanos stage id member (executed id) (deferred id) (events id) early served := by
  obtain ⟨member, found⟩ := Option.isSome_iff_exists.mp ((stage.fleet.mem_visitOrder id).mp listed)
  obtain ⟨early, served, treated⟩ := tells id member found
  exact ⟨member, early, served, found, treated⟩

theorem adds : Round.Adds (opened stage) (tickRound arrivals nanos stage)
    (stage.fleet.visitOrder.flatMap executed)
    (stage.fleet.visitOrder.flatMap fun id => (deliveredFor stage.fleet id).toList)
    (stage.fleet.visitOrder.flatMap deferred) (stage.fleet.visitOrder.flatMap events) := by
  refine tickRound_adds arrivals nanos fun id listed => ?_
  obtain ⟨member, early, served, found, treated⟩ := tells.of_mem listed
  rw [deliveredFor, found]
  exact treated.adds

theorem executed_eq : (tickRound arrivals nanos stage).report.executed =
    stage.fleet.visitOrder.flatMap executed :=
  tells.adds.executed

theorem completed_eq : (tickRound arrivals nanos stage).report.completed =
    (stage.fleet.visitOrder.flatMap fun id => (deliveredFor stage.fleet id).toList).length :=
  tells.adds.completed.trans (Nat.zero_add _)

theorem deferred_eq : (tickRound arrivals nanos stage).report.deferred =
    stage.fleet.visitOrder.flatMap deferred :=
  tells.adds.deferred

theorem once : ((tickRound arrivals nanos stage).report.executed.map (·.turtleId)).Nodup := by
  have started : (tickRound arrivals nanos stage).report.executed.map (·.turtleId) =
      stage.fleet.visitOrder.filter fun id => !(executed id).isEmpty := by
    rw [tells.executed_eq, List.map_flatMap]
    refine flatMap_eq_filter fun id listed => ?_
    obtain ⟨member, early, served, found, treated⟩ := tells.of_mem listed
    rw [treated.treats.map_turtleId]
    cases (executed id).isEmpty <;> rfl
  rw [started]
  exact stage.fleet.visitOrder_nodup.filter _

/-- A turtle is deferred if it could start a command that is left in its queue. -/
theorem deferred_iff (reachable : stage.Reachable) {id : TurtleId}
    (listed : id ∈ stage.fleet.visitOrder) : deferred id =
      if (tickRound arrivals nanos stage).stage.fleet.idles id &&
        ((tickRound arrivals nanos stage).report.startedFor id).isEmpty &&
        decide ((stage.fleet.lateFor arrivals id).length <
          ((tickRound arrivals nanos stage).stage.fleet.entriesOf id).length) then [id] else [] := by
  obtain ⟨member, early, served, found, treated⟩ := tells.of_mem listed
  obtain ⟨ran, waiting, published, ledger⟩ := reachable.ledger found
  obtain ⟨_, fresh, _, counted, left, _⟩ := treated.queue found ledger
  have more : decide ((stage.fleet.lateFor arrivals id).length <
      (served.queue.entries ++ fresh).length) = !served.queue.entries.isEmpty := by
    rw [List.length_append, counted]
    cases served.queue.entries with
    | nil => simp
    | cons entry rest => simp
  rw [treated.treats.deferred_eq, treated.idles, treated.started, left, more]
  congr 2
  rw [Bool.and_comm (executed id).isEmpty]

/-- A held response goes out exactly if the animation of its turtle ends. -/
theorem delivered_iff (reachable : stage.Reachable) (id : TurtleId) :
    (id ∈ stage.fleet.visitOrder.filter fun id => (deliveredFor stage.fleet id).isSome) ↔
      ∃ member response, stage.fleet.members.get? id = some member ∧
        member.pending = some response ∧
        response.toEvent id ∈ stage.fleet.visitOrder.flatMap events := by
  constructor
  · intro released
    obtain ⟨listed, given⟩ := List.mem_filter.mp released
    obtain ⟨member, early, served, found, treated⟩ := tells.of_mem listed
    rw [deliveredFor, found] at given
    obtain ⟨response, given⟩ := Option.isSome_iff_exists.mp given
    replace given : member.delivery = some response := given
    have held : member.pending = some response := by
      unfold Member.delivery at given
      split at given
      · exact given
      · cases given
    exact ⟨member, response, found, held,
      List.mem_flatMap.mpr ⟨id, listed, treated.treats.mem_events given⟩⟩
  · rintro ⟨member, response, found, held, out⟩
    have listed := (stage.fleet.mem_visitOrder id).mpr (Option.isSome_of_eq_some found)
    refine List.mem_filter.mpr ⟨listed, ?_⟩
    obtain ⟨other, listedToo, out⟩ := List.mem_flatMap.mp out
    obtain ⟨_, _, _, foundToo, treated⟩ := tells.of_mem listedToo
    -- an event is that of the visited turtle
    obtain ⟨_, same⟩ := treated.treats.event_eq out
    obtain rfl : id = other := congrArg Event.turtleId same
    cases found.symm.trans foundToo
    obtain ⟨ran, waiting, published, ledger⟩ := reachable.ledger found
    have plays : member.turtle.animation.playing = true := by
      rw [← ledger.animated, held]
      rfl
    have ended : member.turtle.animation.tick.1 = false := by
      cases goesOn : member.turtle.animation.tick.1 with
      | false => rfl
      | true =>
        rw [(treated.treats.nothing goesOn).2.2] at out
        cases out
    simp [deliveredFor, found, Member.delivery, plays, ended, held]

theorem published : (stage.fleet.visitOrder.flatMap events).length =
    (tickRound arrivals nanos stage).report.completed +
      ((tickRound arrivals nanos stage).report.executed.filter fun record =>
        (tickRound arrivals nanos stage).stage.fleet.idles record.turtleId).length := by
  rw [tells.completed_eq, tells.executed_eq, List.filter_flatMap]
  refine length_flatMap_add fun id listed => ?_
  obtain ⟨member, early, served, found, treated⟩ := tells.of_mem listed
  have counted : (events id).length = member.delivery.toList.length +
      if (executed id).isEmpty || served.turtle.animation.playing then 0 else 1 :=
    treated.treats.length_events
  have idle : (executed id).filter (fun record =>
      (tickRound arrivals nanos stage).stage.fleet.idles record.turtleId) =
        if served.turtle.animation.playing then [] else executed id := by
    rw [List.filter_congr fun record among => by
      rw [treated.treats.turtleId_eq among, treated.idles]]
    cases served.turtle.animation.playing <;> simp
  have one : (executed id).length = if (executed id).isEmpty then 0 else 1 := by
    have named := congrArg List.length treated.treats.map_turtleId
    rw [List.length_map] at named
    rw [named]
    split <;> rfl
  have given : (deliveredFor stage.fleet id).toList = member.delivery.toList := by
    rw [deliveredFor, found]
    rfl
  rw [counted, idle, given]
  cases served.turtle.animation.playing with
  | false => rw [Bool.or_false, if_neg Bool.false_ne_true, one]
  | true => rw [Bool.or_true, if_pos rfl, if_pos rfl, List.length_nil]

theorem completed : (tickRound arrivals nanos stage).report.completed =
    (stage.fleet.visitOrder.filter fun id => (deliveredFor stage.fleet id).isSome).length := by
  rw [tells.completed_eq, ← List.filterMap_eq_flatMap_toList, List.length_filterMap_eq_countP,
    List.countP_eq_length_filter]

theorem popped (reachable : stage.Reachable) : ∃ popped : TurtleId → List (QueueEntry C),
    (∀ id, (popped id).length ≤ 1 ∧
      (stage.fleet.takeIn (stage.fleet.visitOrder.flatMap arrivals)).entriesOf id =
        popped id ++ (tickRound arrivals nanos stage).stage.fleet.entriesOf id) ∧
    (tickRound arrivals nanos stage).report.executed.map
        (fun record => (record.turtleId, record.id, record.command)) =
      stage.fleet.visitOrder.flatMap fun id =>
        (popped id).map fun entry => (id, entry.id, Command.name entry.command) := by
  have each (id : TurtleId) : ∃ popped : List (QueueEntry C), popped.length ≤ 1 ∧
      (stage.fleet.takeIn (stage.fleet.visitOrder.flatMap arrivals)).entriesOf id =
        popped ++ (tickRound arrivals nanos stage).stage.fleet.entriesOf id ∧
      (id ∈ stage.fleet.visitOrder →
        (executed id).map (fun record => (record.turtleId, record.id, record.command)) =
          popped.map fun entry => (id, entry.id, Command.name entry.command)) := by
    rcases found : stage.fleet.members.get? id with _ | member
    · have absent : id ∉ stage.fleet.visitOrder := by
        rw [Fleet.mem_visitOrder, found]
        exact Bool.false_ne_true
      refine ⟨[], Nat.zero_le _, ?_, fun listed => (absent listed).elim⟩
      rw [Fleet.entriesOf, Fleet.get?_takeIn, found, Fleet.entriesOf,
        (tickRound_missing arrivals nanos found).1]
      rfl
    · obtain ⟨early, served, treated⟩ := tells id member found
      obtain ⟨ran, waiting, published, ledger⟩ := reachable.ledger found
      obtain ⟨popped, _, few, _, _, offered, named⟩ := treated.queue found ledger
      exact ⟨popped, few, offered, fun _ => named⟩
  choose popped few offered named using each
  refine ⟨popped, fun id => ⟨few id, offered id⟩, ?_⟩
  rw [tells.executed_eq, List.map_flatMap, List.flatMap_def, List.flatMap_def,
    List.map_congr_left named]

theorem deferred_filter (reachable : stage.Reachable) :
    (tickRound arrivals nanos stage).report.deferred = stage.fleet.visitOrder.filter fun id =>
      (tickRound arrivals nanos stage).stage.fleet.idles id &&
        ((tickRound arrivals nanos stage).report.startedFor id).isEmpty &&
        decide ((stage.fleet.lateFor arrivals id).length <
          ((tickRound arrivals nanos stage).stage.fleet.entriesOf id).length) :=
  tells.deferred_eq.trans (flatMap_eq_filter fun _ listed => tells.deferred_iff reachable listed)

/-- When nothing is submitted during the tick, all that is left in a queue waits there. -/
theorem undisturbed (reachable : stage.Reachable) (still : ∀ id, arrivals id = []) :
    (tickRound arrivals nanos stage).report.deferred = stage.fleet.visitOrder.filter fun id =>
      (tickRound arrivals nanos stage).stage.fleet.idles id &&
        ((tickRound arrivals nanos stage).report.startedFor id).isEmpty &&
        !((tickRound arrivals nanos stage).stage.fleet.entriesOf id).isEmpty := by
  rw [tells.deferred_filter reachable]
  refine List.filter_congr fun id _ => ?_
  have nothing : stage.fleet.lateFor arrivals id = [] := by
    rw [Fleet.lateFor, List.flatMap_eq_nil_iff.mpr fun other _ => still other]
    split <;> rfl
  rw [nothing]
  cases Fleet.entriesOf _ id <;> rfl

theorem isExact (reachable : stage.Reachable) (cursor : Option TurtleId) :
    (tickRound arrivals nanos stage).report.Exact stage.fleet
      { (tickRound arrivals nanos stage).stage.fleet with cursor } arrivals
      (stage.fleet.visitOrder.flatMap events) := by
  refine { once := tells.once, executed := tells.popped reachable, completed := ?_,
           deferred := tells.deferred_filter reachable,
           undisturbed := tells.undisturbed reachable, responses := fun event out => ?_,
           published := tells.published, animated := fun id member found goesOn => ?_ }
  · exact ⟨_, List.filter_sublist, tells.completed, tells.delivered_iff reachable⟩
  · obtain ⟨id, listed, out⟩ := List.mem_flatMap.mp out
    obtain ⟨_, _, _, _, treated⟩ := tells.of_mem listed
    obtain ⟨response, same⟩ := treated.treats.event_eq out
    exact ⟨response, id, same⟩
  · obtain ⟨early, served, treated⟩ := tells id member found
    obtain ⟨unstarted, kept, _⟩ := treated.treats.nothing goesOn
    refine ⟨treated.started.trans unstarted, fun denied => ?_⟩
    rw [tells.deferred_eq] at denied
    obtain ⟨other, listed, denied⟩ := List.mem_flatMap.mp denied
    obtain ⟨_, _, _, _, treatedToo⟩ := tells.of_mem listed
    obtain rfl : id = other := treatedToo.treats.eq_of_mem_deferred denied
    rw [kept] at denied
    cases denied

end Tells

end Operation

namespace Stage

variable [Command C] [World W] [WorkMonitor M]

/-- The report of a tick is exact. -/
theorem reports_are_exact {stage : Stage C M W} (reachable : stage.Reachable)
    (arrivals : TurtleId → List (Submitter × C)) (nanos : TurtleId → Nat) :
    ∃ report last news, Operation.tickAmid arrivals nanos stage = .ok report last ∧
      last.signals = stage.signals ++ news ∧
      report.Exact stage.fleet last.fleet arrivals (announced news) := by
  obtain ⟨executed, deferred, events, tells⟩ := Operation.exists_tells arrivals nanos stage
  obtain ⟨cursor, ended⟩ := Operation.tickAmid_eq arrivals nanos stage
  obtain ⟨news, seen, out⟩ := tells.adds.seen
  refine ⟨_, _, news, ended, seen, ?_⟩
  rw [out]
  exact tells.isExact reachable cursor

/-- A crew of which one turtle has nearly turned, another one has begun to turn, and there are commands
for this turtle and the third one. -/
def shift : Stage TurtleCommand WorkBudget MemoryWorld :=
  crew.run [.submit "ada" (.turn .left), busyTick, .submit "bob" (.turn .left),
    .submit "cid" .getFuelLevel, .submit "ada" .getFuelLevel, busyTick]

theorem reachable_shift : shift.Reachable :=
  (Sample.reachable (.ofNanos 1) _ : crew.Reachable).of_leads (leads_run _ _)

theorem reports_are_exact_shift :
    shift.Reachable ∧
      ∃ report last news,
        Operation.tickAmid (fun _ => []) (fun _ => 1) shift = .ok report last ∧
        last.signals = shift.signals ++ news ∧
        report.Exact shift.fleet last.fleet (fun _ => []) (announced news) ∧
        shift.fleet.visitOrder = ["cid", "ada", "bob"] ∧
        report.executed.map (fun record => (record.turtleId, record.id, record.command)) =
          [("cid", 1, "get_fuel_level")] ∧
        report.completed = 1 ∧ report.deferred = ["ada"] := by
  obtain ⟨report, last, news, ended, seen, exact⟩ :=
    reports_are_exact reachable_shift (fun _ => []) (fun _ => 1)
  have reported : shift.reported busyTick = [report] := by
    rw [busyTick, Stage.reported, ended]
  have figures : (shift.reported busyTick).map (fun report =>
      (report.executed.map (fun record => (record.turtleId, record.id, record.command)),
        report.completed, report.deferred)) =
      [([("cid", 1, "get_fuel_level")], 1, ["ada"])] := by rfl
  rw [reported] at figures
  obtain ⟨executed, completed, deferred⟩ : _ ∧ _ ∧ _ := by
    simpa only [List.map_cons, List.map_nil, List.cons.injEq, Prod.mk.injEq, and_true] using figures
  exact ⟨reachable_shift, report, last, news, ended, seen, exact, by rfl, executed, completed, deferred⟩

end Stage

end TurtleFleet
