import TurtleFleet.Fleet.Tick
import TurtleFleet.Proofs.Submission

/-! Visits: what one visit of a tick can do, all guards included, and that it touches no turtle but
the one that is visited. What is heard on the stream of a turtle are the responses that were
published for it. -/

namespace TurtleFleet

variable {C M W : Type}

/-! ### Hearing responses -/

/-- The response that a signal carries on the stream of a turtle. -/
def Signal.response? (turtle : TurtleId) : Signal → Option Response
  | published event => if event.turtleId = turtle then Response.ofEvent? event else none
  | effect _ => none
  | closed _ => none

/-- The responses on the stream of a turtle, in the order in which they went out. -/
def heard (turtle : TurtleId) (signals : List Signal) : List Response :=
  signals.filterMap (Signal.response? turtle)

@[simp] theorem heard_nil (turtle : TurtleId) : heard turtle [] = [] := rfl

@[simp] theorem heard_append (turtle : TurtleId) (first second : List Signal) :
    heard turtle (first ++ second) = heard turtle first ++ heard turtle second :=
  List.filterMap_append

@[simp] theorem heard_effects {α : Type} (turtle : TurtleId) (values : List α)
    (effect : α → Effect) : heard turtle (values.map fun value => .effect (effect value)) = [] := by
  induction values with
  | nil => rfl
  | cons value rest ih => exact ih

@[simp] theorem heard_map_effect (turtle : TurtleId) (effects : List Effect) :
    heard turtle (effects.map .effect) = [] :=
  heard_effects turtle effects id

theorem heard_published_of_ne {turtle id : TurtleId} (apart : turtle ≠ id)
    (responses : List Response) :
    heard turtle (responses.map fun response => .published (response.toEvent id)) = [] := by
  induction responses with
  | nil => rfl
  | cons response rest ih =>
    have unheard : Signal.response? turtle (.published (response.toEvent id)) = none := by
      simp [Signal.response?, Response.toEvent, Ne.symm apart]
    rw [List.map_cons, heard, List.filterMap_cons_none unheard]
    exact ih

/-- A response as an outcome gives rise to it, under a number that fits into its word. -/
def Response.Genuine (response : Response) : Prop :=
  response.id < word64 ∧ ∃ result, response = Response.ofResult response.id result

theorem Response.genuine_ofResult {id : Nat} (small : id < word64)
    (result : Except Stop (List Json)) : (Response.ofResult id result).Genuine := by
  cases result with
  | ok payload => exact ⟨small, .ok payload, rfl⟩
  | error stop => exact ⟨small, .error stop, rfl⟩

theorem Response.genuine_failure {id : Nat} (small : id < word64) (message : String) :
    (Response.failure id message).Genuine :=
  ⟨small, .error (.rejected message), rfl⟩

theorem Response.ofEvent?_toEvent {response : Response} (genuine : response.Genuine)
    (turtle : TurtleId) : Response.ofEvent? (response.toEvent turtle) = some response := by
  obtain ⟨small, result, same⟩ := genuine
  have fits : 0 ≤ (response.id : Int) ∧ (response.id : Int) < word64 := by
    constructor
    · exact Int.natCast_nonneg _
    · exact_mod_cast small
  rw [same]
  cases result with
  | ok payload =>
    simp only [ofEvent?, toEvent, toArgs, ofResult, ↓reduceIte, ofArgs?, fits, and_self,
      Int.toNat_natCast]
  | error stop =>
    simp only [ofEvent?, toEvent, toArgs, ofResult, failure, Bool.false_eq_true, ↓reduceIte,
      ofArgs?, fits, and_self, Int.toNat_natCast, List.head?_cons, Option.getD_some]

theorem heard_published {responses : List Response}
    (genuine : ∀ response ∈ responses, response.Genuine) (turtle : TurtleId) :
    heard turtle (responses.map fun response => .published (response.toEvent turtle)) =
      responses := by
  induction responses with
  | nil => rfl
  | cons response rest ih =>
    have carried : Signal.response? turtle (.published (response.toEvent turtle)) = some response := by
      have own : (response.toEvent turtle).turtleId = turtle := rfl
      rw [Signal.response?, if_pos own]
      exact Response.ofEvent?_toEvent (genuine response (by simp)) turtle
    rw [List.map_cons, heard, List.filterMap_cons_some carried]
    exact congrArg (response :: ·) (ih fun other member => genuine other (by simp [member]))

/-- The commands of a turtle that a report lists as started. -/
def TickReport.startedFor (report : TickReport) (id : TurtleId) : List ExecutedCommand :=
  report.executed.filter (·.turtleId = id)

/-! ### The beginning of a visit -/

namespace Member

/-- The member whose upgrades had their update and whose animation went one step further. -/
def woken (member : Member C) (id : TurtleId) (time : Nat) : Member C :=
  (member.updateUpgrades id time).1.animate.1

/-- The response that goes out because the animation ended. -/
def delivery (member : Member C) : Option Response :=
  if member.turtle.animation.playing && !member.turtle.animation.tick.1 then member.pending else none

theorem woken_eq (member : Member C) (id : TurtleId) (time : Nat) :
    member.woken id time = { member with
      turtle := { member.turtle with
        equipment := (member.turtle.equipment.update id time member.turtle.attached).1
        animation := member.turtle.animation.tick.2 }
      pending := if member.turtle.animation.playing && !member.turtle.animation.tick.1 then none
        else member.pending } := by
  cases plays : member.turtle.animation.playing with
  | false =>
    have still : member.turtle.animation.tick.2 = member.turtle.animation := by
      rw [Animation.tick_of_still plays]
    simp [woken, updateUpgrades, animate, plays, still]
  | true =>
    cases goesOn : member.turtle.animation.tick.1 <;>
      simp [woken, updateUpgrades, animate, plays, goesOn]

theorem animate_delivery (member : Member C) (id : TurtleId) (time : Nat) :
    (member.updateUpgrades id time).1.animate.2 = member.delivery := by
  cases plays : member.turtle.animation.playing with
  | false => simp [updateUpgrades, animate, delivery, plays]
  | true =>
    cases goesOn : member.turtle.animation.tick.1 <;>
      simp [updateUpgrades, animate, delivery, plays, goesOn]

@[simp] theorem woken_registration (member : Member C) (id : TurtleId) (time : Nat) :
    (member.woken id time).registration = member.registration := by rw [woken_eq]

@[simp] theorem woken_queue (member : Member C) (id : TurtleId) (time : Nat) :
    (member.woken id time).queue = member.queue := by rw [woken_eq]

@[simp] theorem woken_name (member : Member C) (id : TurtleId) (time : Nat) :
    (member.woken id time).turtle.id = member.turtle.id := by rw [woken_eq]

@[simp] theorem woken_entity (member : Member C) (id : TurtleId) (time : Nat) :
    (member.woken id time).turtle.entity = member.turtle.entity := by rw [woken_eq]

theorem playing_woken (member : Member C) (id : TurtleId) (time : Nat) :
    (member.woken id time).turtle.animation.playing = member.turtle.animation.tick.1 := by
  rw [woken_eq]
  exact Animation.playing_tick _

theorem turtle_woken (member : Member C) (id : TurtleId) (time : Nat) :
    (member.woken id time).turtle = { member.turtle with
      equipment := (member.woken id time).turtle.equipment
      animation := (member.woken id time).turtle.animation } := by
  rw [woken_eq]

/-- The held response goes out or is held on. -/
theorem delivery_append (member : Member C) (id : TurtleId) (time : Nat) :
    member.delivery.toList ++ (member.woken id time).pending.toList = member.pending.toList := by
  rw [woken_eq, delivery]
  split <;> simp

end Member

theorem Fleet.moversExcept_setMember (fleet : Fleet C M) (id : TurtleId) (member : Member C) :
    (fleet.setMember id member).moversExcept id = fleet.moversExcept id := by
  unfold moversExcept setMember Keyed.insert
  rw [Keyed.filter_place]
  intro value
  simp

namespace Round

@[simp] theorem wake_fst (round : Round C M W) (id : TurtleId) (member : Member C) :
    (round.wake id member).1 = member.woken id round.stage.fleet.time := rfl

@[simp] theorem wake_fleet (round : Round C M W) (id : TurtleId) (member : Member C) :
    (round.wake id member).2.stage.fleet =
      round.stage.fleet.setMember id (member.woken id round.stage.fleet.time) := rfl

theorem wake_signals (round : Round C M W) (id : TurtleId) (member : Member C) :
    (round.wake id member).2.stage.signals = round.stage.signals ++
      ((member.updateUpgrades id round.stage.fleet.time).2.map
        (fun notice => Signal.effect (.equipment notice)) ++
      member.delivery.toList.map fun response => .published (response.toEvent id)) := by
  rw [← member.animate_delivery id round.stage.fleet.time]
  rfl

theorem wake_completed (round : Round C M W) (id : TurtleId) (member : Member C) :
    (round.wake id member).2.report.completed =
      round.report.completed + member.delivery.toList.length := by
  rw [← member.animate_delivery id round.stage.fleet.time]
  rfl

@[simp] theorem wake_executed (round : Round C M W) (id : TurtleId) (member : Member C) :
    (round.wake id member).2.report.executed = round.report.executed := rfl

/-- The round in which the work monitor was asked and has changed. -/
def watched (round : Round C M W) (monitor : M) : Round C M W :=
  { round with stage := { round.stage with fleet := { round.stage.fleet with monitor } } }

variable [Command C] [World W] [WorkMonitor M]

inductive Visits (round : Round C M W) (id : TurtleId) (nanos : Nat) : Round C M W → Prop where
  | absent (missing : round.stage.fleet.members.get? id = none) : Visits round id nanos round
  /-- The animation goes on. -/
  | busy {member : Member C} (found : round.stage.fleet.members.get? id = some member)
      (plays : (member.woken id round.stage.fleet.time).turtle.animation.playing = true) :
      Visits round id nanos (round.wake id member).2
  | idle {member : Member C} (found : round.stage.fleet.members.get? id = some member)
      (still : (member.woken id round.stage.fleet.time).turtle.animation.playing = false)
      (empty : member.queue.entries = []) :
      Visits round id nanos (round.wake id member).2
  | deferred {member : Member C} {entry : QueueEntry C} {rest : List (QueueEntry C)} {monitor : M}
      (found : round.stage.fleet.members.get? id = some member)
      (still : (member.woken id round.stage.fleet.time).turtle.animation.playing = false)
      (waiting : member.queue.entries = entry :: rest)
      (denied : WorkMonitor.canWork round.stage.fleet.monitor = (false, monitor)) :
      Visits round id nanos (((round.wake id member).2.watched monitor).defer id)
  | executed {member : Member C} {entry : QueueEntry C} {rest : List (QueueEntry C)} {monitor : M}
      (found : round.stage.fleet.members.get? id = some member)
      (still : (member.woken id round.stage.fleet.time).turtle.animation.playing = false)
      (waiting : member.queue.entries = entry :: rest)
      (allowed : WorkMonitor.canWork round.stage.fleet.monitor = (true, monitor)) :
      Visits round id nanos (((round.wake id member).2.watched monitor).execute id
        { member.woken id round.stage.fleet.time with queue := { member.queue with entries := rest } }
        entry nanos)

theorem visits_visit (round : Round C M W) (id : TurtleId) (nanos : Nat) :
    Visits round id nanos (round.visit id nanos) := by
  rcases found : round.stage.fleet.members.get? id with _ | member
  · have left : round.visit id nanos = round := by simp only [visit, found]
    rw [left]
    exact .absent found
  rcases plays : (member.woken id round.stage.fleet.time).turtle.animation.playing with _ | _
  · rcases waiting : member.queue.entries with _ | ⟨entry, rest⟩
    · have left : round.visit id nanos = (round.wake id member).2 := by
        simp only [visit, found, wake_fst, plays, Bool.false_eq_true, ↓reduceIte, dispatch,
          CommandQueue.pop?, Member.woken_queue, waiting]
      rw [left]
      exact .idle found plays waiting
    · rcases asked : WorkMonitor.canWork round.stage.fleet.monitor with ⟨_ | _, monitor⟩
      · have left : round.visit id nanos = ((round.wake id member).2.watched monitor).defer id := by
          simp only [visit, found, wake_fst, plays, Bool.false_eq_true, ↓reduceIte, dispatch,
            CommandQueue.pop?, Member.woken_queue, waiting, mayWork, wake_fleet, Fleet.setMember, asked]
          rfl
        rw [left]
        exact .deferred found plays waiting asked
      · have left : round.visit id nanos = ((round.wake id member).2.watched monitor).execute id
            { member.woken id round.stage.fleet.time with
              queue := { member.queue with entries := rest } } entry nanos := by
          simp only [visit, found, wake_fst, plays, Bool.false_eq_true, ↓reduceIte, dispatch,
            CommandQueue.pop?, Member.woken_queue, waiting, mayWork, wake_fleet, Fleet.setMember, asked]
          rfl
        rw [left]
        exact .executed found plays waiting asked
  · have left : round.visit id nanos = (round.wake id member).2 := by
      simp only [visit, found, wake_fst, plays, ↓reduceIte]
    rw [left]
    exact .busy found plays

/-- What the visit of a registered turtle does to a round. Why the turtle waits is not to be seen. -/
inductive Rouses (round : Round C M W) (id : TurtleId) (member : Member C) (nanos : Nat) :
    Round C M W → Prop where
  | waits (monitor : M) (deferred : List TurtleId) :
      Rouses round id member nanos
        { (round.wake id member).2.watched monitor with
          report := { (round.wake id member).2.report with deferred } }
  | works {entry : QueueEntry C} {rest : List (QueueEntry C)} (monitor : M)
      (still : (member.woken id round.stage.fleet.time).turtle.animation.playing = false)
      (waiting : member.queue.entries = entry :: rest) :
      Rouses round id member nanos (((round.wake id member).2.watched monitor).execute id
        { member.woken id round.stage.fleet.time with queue := { member.queue with entries := rest } }
        entry nanos)

theorem rouses_visit {round : Round C M W} {id : TurtleId} {member : Member C}
    (found : round.stage.fleet.members.get? id = some member) (nanos : Nat) :
    Rouses round id member nanos (round.visit id nanos) := by
  have visits := visits_visit round id nanos
  generalize round.visit id nanos = left at visits ⊢
  cases visits with
  | absent missing =>
    rw [missing] at found
    cases found
  | busy same plays =>
    cases found.symm.trans same
    exact .waits round.stage.fleet.monitor round.report.deferred
  | idle same still empty =>
    cases found.symm.trans same
    exact .waits round.stage.fleet.monitor round.report.deferred
  | @deferred _ entry rest monitor same still waiting denied =>
    cases found.symm.trans same
    exact .waits monitor (round.report.deferred ++ [id])
  | @executed _ entry rest monitor same still waiting allowed =>
    cases found.symm.trans same
    exact .works monitor still waiting

/-! ### What becomes of the turtles -/

/-- What a visit makes of the visited member and the world, with the responses that go out for the
member and the commands that it starts. -/
inductive Serves (context : Context) (movers : List TurtleId) (id : TurtleId) (member : Member C)
    (world : W) : List Response → List ExecutedCommand → Member C → W → Prop where
  | waits :
      Serves context movers id member world member.delivery.toList [] (member.woken id context.time)
        world
  | starts {entry : QueueEntry C} {rest : List (QueueEntry C)} {result : Except Stop (List Json)}
      {left : Scene W}
      (still : (member.woken id context.time).turtle.animation.playing = false)
      (waiting : member.queue.entries = entry :: rest)
      (ran : (Command.execute entry.command context).outcome
        { turtle := (member.woken id context.time).turtle, world, otherMovers := movers } =
          (result, left)) :
      Serves context movers id member world
        (member.delivery.toList ++
          if left.turtle.animation.playing then [] else [Response.ofResult entry.id result])
        [{ turtleId := id, id := entry.id, command := Command.name entry.command,
           success := result.isOk }]
        { member with
          turtle := left.turtle
          queue := { member.queue with entries := rest }
          pending := if left.turtle.animation.playing then some (Response.ofResult entry.id result)
            else (member.woken id context.time).pending }
        left.world

theorem visit_fleet_eq (round : Round C M W) (id : TurtleId) (nanos : Nat) :
    ∃ members monitor,
      (round.visit id nanos).stage.fleet = { round.stage.fleet with members, monitor } := by
  have visits := visits_visit round id nanos
  generalize round.visit id nanos = left at visits ⊢
  cases visits with
  | absent missing => exact ⟨_, _, rfl⟩
  | busy found plays => exact ⟨_, _, rfl⟩
  | idle found still empty => exact ⟨_, _, rfl⟩
  | deferred found still waiting denied => exact ⟨_, _, rfl⟩
  | executed found still waiting allowed => exact ⟨_, _, rfl⟩

/-- A visit leaves the other turtles alone, and nothing is heard of them. -/
theorem visit_of_ne (round : Round C M W) {id other : TurtleId} (apart : other ≠ id) (nanos : Nat) :
    (round.visit id nanos).stage.fleet.members.get? other =
        round.stage.fleet.members.get? other ∧
      heard other (round.visit id nanos).stage.signals = heard other round.stage.signals ∧
      (round.visit id nanos).report.startedFor other = round.report.startedFor other := by
  have visits := visits_visit round id nanos
  generalize round.visit id nanos = left at visits ⊢
  have woken (member : Member C) :
      (round.wake id member).2.stage.fleet.members.get? other =
          round.stage.fleet.members.get? other ∧
        heard other (round.wake id member).2.stage.signals = heard other round.stage.signals := by
    constructor
    · rw [wake_fleet, Fleet.setMember, Keyed.get?_insert_of_ne _ _ apart]
    · rw [wake_signals]
      simp [heard_published_of_ne apart]
  cases visits with
  | absent missing => exact ⟨rfl, rfl, rfl⟩
  | busy found plays => exact ⟨(woken _).1, (woken _).2, rfl⟩
  | idle found still empty => exact ⟨(woken _).1, (woken _).2, rfl⟩
  | deferred found still waiting denied => exact ⟨(woken _).1, (woken _).2, rfl⟩
  | @executed member entry rest monitor found still waiting allowed =>
    refine ⟨?_, ?_, ?_⟩
    · rw [← (woken member).1]
      simp only [execute, Fleet.setMember, Keyed.get?_insert_of_ne _ _ apart]
      rfl
    · rw [← (woken member).2]
      have silent (response : Response) :
          heard other [Signal.published (response.toEvent id)] = [] :=
        heard_published_of_ne apart [response]
      simp only [execute, heard_append, heard_map_effect, List.append_nil]
      split
      · simp only [heard_nil, List.append_nil]
        rfl
      · simp only [silent, List.append_nil]
        rfl
    · simp [TickReport.startedFor, execute, Ne.symm apart, watched]

end Round

/-- The responses of a member, those to come included, are heard as they are. -/
structure Member.Audible (member : Member C) : Prop where
  held : ∀ response ∈ member.pending, response.Genuine
  queued : ∀ entry ∈ member.queue.entries, entry.id < word64
  next : member.queue.nextId < word64

namespace Round

variable [Command C] [World W] [WorkMonitor M]

omit [Command C] [World W] [WorkMonitor M] in
/-- Waking a turtle does not change who else is under way. -/
theorem moversExcept_wake (round : Round C M W) (id : TurtleId) (member : Member C) (monitor : M) :
    ((round.wake id member).2.watched monitor).stage.fleet.moversExcept id =
      round.stage.fleet.moversExcept id :=
  Fleet.moversExcept_setMember ..

/-- Running a command, when it is known how the command ends. -/
theorem execute_of_ran (round : Round C M W) {id : TurtleId} (member : Member C)
    {entry : QueueEntry C} {result : Except Stop (List Json)} {left : Scene W}
    (ran : (Command.execute entry.command round.stage.fleet.context).outcome
      { turtle := member.turtle, world := round.stage.world,
        otherMovers := round.stage.fleet.moversExcept id } = (result, left)) (nanos : Nat) :
    round.execute id member entry nanos =
      { stage := {
          fleet := Fleet.setMember
            { round.stage.fleet with
              monitor := WorkMonitor.trackWork round.stage.fleet.monitor nanos } id
            { member with
              turtle := left.turtle
              pending := if left.turtle.animation.playing then
                some (Response.ofResult entry.id result) else member.pending }
          world := left.world
          signals := round.stage.signals ++ left.effects.map .effect ++
            if left.turtle.animation.playing then []
            else [.published ((Response.ofResult entry.id result).toEvent id)] }
        report := { round.report with
          executed := round.report.executed ++
            [{ turtleId := id, id := entry.id, command := Command.name entry.command,
               success := result.isOk }] } } := by
  simp only [execute, ran]

omit [Command C] [World W] [WorkMonitor M] in
theorem heard_wake (round : Round C M W) (id : TurtleId) {member : Member C}
    (audible : member.Audible) :
    heard id (round.wake id member).2.stage.signals =
      heard id round.stage.signals ++ member.delivery.toList := by
  have genuine : ∀ response ∈ member.delivery.toList, response.Genuine := by
    intro response given
    rw [Option.mem_toList, Member.delivery] at given
    split at given
    · exact audible.held response given
    · cases given
  rw [wake_signals, heard_append, heard_append, heard_effects, List.nil_append,
    heard_published genuine]

theorem visit_self {round : Round C M W} {id : TurtleId} {member : Member C}
    (found : round.stage.fleet.members.get? id = some member) (audible : member.Audible)
    (nanos : Nat) :
    ∃ answers started served,
      Serves round.stage.fleet.context (round.stage.fleet.moversExcept id) id member
        round.stage.world answers started served (round.visit id nanos).stage.world ∧
      (round.visit id nanos).stage.fleet.members.get? id = some served ∧
      heard id (round.visit id nanos).stage.signals = heard id round.stage.signals ++ answers ∧
      (round.visit id nanos).report.startedFor id = round.report.startedFor id ++ started := by
  have rouses := rouses_visit found nanos
  generalize round.visit id nanos = left at rouses ⊢
  have delivered := heard_wake round id audible
  cases rouses with
  | waits monitor deferred =>
    exact ⟨_, _, _, .waits, Keyed.get?_insert_self .., delivered, (List.append_nil _).symm⟩
  | @works entry rest monitor still waiting =>
    rcases ran : (Command.execute entry.command round.stage.fleet.context).outcome
      { turtle := (member.woken id round.stage.fleet.time).turtle, world := round.stage.world,
        otherMovers := round.stage.fleet.moversExcept id } with ⟨result, scene⟩
    have left := execute_of_ran ((round.wake id member).2.watched monitor)
      { member.woken id round.stage.fleet.time with queue := { member.queue with entries := rest } }
      (round.moversExcept_wake id member monitor ▸ ran) nanos
    rw [left]
    refine ⟨_, _, _, .starts still waiting ran, ?_, ?_, ?_⟩
    · simp only [Fleet.setMember, Keyed.get?_insert_self, Member.woken_registration]
      rfl
    · have genuine : (Response.ofResult entry.id result).Genuine :=
        Response.genuine_ofResult (audible.queued entry (by simp [waiting])) result
      have published : heard id [.published ((Response.ofResult entry.id result).toEvent id)] =
          [Response.ofResult entry.id result] :=
        heard_published (List.forall_mem_singleton.mpr genuine) id
      have before : heard id ((round.wake id member).2.watched monitor).stage.signals =
          heard id round.stage.signals ++ member.delivery.toList := delivered
      split
      · simp [before]
      · rw [heard_append, heard_append, before, heard_map_effect, List.append_nil,
          List.append_assoc]
        exact congrArg (fun answers => _ ++ (member.delivery.toList ++ answers)) published
    · simp [TickReport.startedFor, watched]

end Round

end TurtleFleet
