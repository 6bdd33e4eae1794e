import TurtleFleet.Proofs.Solo

/-! Whole fleets beside their references: every turtle that has a dimension to itself answers as it
would alone, whatever the order of submissions and ticks, the work monitor and the other turtles. -/

namespace TurtleFleet

variable {M : Type}

/-- A visit keeps a member beside its reference and leaves the other dimensions alone. -/
theorem Follows.serves {context : Context} {alone : Solo} {ran waiting : List TurtleCommand}
    {member : Member TurtleCommand} {memory : MemoryWorld} {published : List Response}
    (follows : Follows context alone ran waiting member memory published) {current : Context}
    (settings : current.settings = context.settings) (catalog : current.catalog = context.catalog)
    {movers : List TurtleId} {id : TurtleId} {served : Member TurtleCommand} {left : MemoryWorld}
    {answers : List Response} {executed : List ExecutedCommand}
    (serves : Round.Serves current movers id member memory answers executed served left) :
    ∃ ranNow waitingNow, ranNow ++ waitingNow = ran ++ waiting ∧
      Follows context alone ranNow waitingNow served left (published ++ answers) ∧
      ∀ other, other ≠ alone.turtle.world →
        left.dimensions.get? other = memory.dimensions.get? other := by
  have awake := follows.woken id current.time
  cases serves with
  | waits => exact ⟨ran, waiting, rfl, awake, fun _ _ => rfl⟩
  | @starts entry rest result scene still next ended =>
    have queue : (member.woken id current.time).queue.entries = entry :: rest := by
      rw [Member.woken_queue, next]
    have same : (Command.execute entry.command current : Action MemoryWorld (List Json)) =
        entry.command.execute context := entry.command.execute_congr settings catalog
    rw [same] at ended
    obtain ⟨later, split, started, beyond⟩ := awake.started still queue ended
    refine ⟨ran ++ [entry.command], later, by simp [split], ?_, beyond⟩
    rw [← List.append_assoc]
    simpa using started

namespace Stage

/-- Every turtle has a dimension to itself. -/
def Apart (stage : Stage TurtleCommand M MemoryWorld) : Prop :=
  ∀ {id other : TurtleId} {first second : Turtle}, stage.fleet.turtle? id = some first →
    stage.fleet.turtle? other = some second → first.world = second.world → id = other

/-- All turtles of a stage are beside their references, which started from an earlier stage. -/
structure Tracks (origin : Stage TurtleCommand M MemoryWorld)
    (accepted : Submitter → List TurtleCommand) (stage : Stage TurtleCommand M MemoryWorld) :
    Prop where
  settings : stage.fleet.settings = origin.fleet.settings
  catalog : stage.fleet.catalog = origin.fleet.catalog
  registered : ∀ id, (stage.fleet.members.get? id).map (·.registration) =
    (origin.fleet.members.get? id).map (·.registration)
  follows : ∀ {id first member}, origin.fleet.members.get? id = some first →
    stage.fleet.members.get? id = some member →
      ∃ ran waiting, accepted (first.handle id) = ran ++ waiting ∧
        Follows origin.fleet.context (.of first.turtle origin.world) ran waiting member
          stage.world (heard id stage.signals)

namespace Tracks

variable {origin stage : Stage TurtleCommand M MemoryWorld}
  {accepted : Submitter → List TurtleCommand}

theorem origin_of_found (tracks : Tracks origin accepted stage) {id : TurtleId}
    {member : Member TurtleCommand} (found : stage.fleet.members.get? id = some member) :
    ∃ first, origin.fleet.members.get? id = some first ∧
      first.handle id = member.handle id := by
  have same := tracks.registered id
  rw [found] at same
  obtain ⟨first, known, registration⟩ := Option.map_eq_some_iff.mp same.symm
  exact ⟨first, known, congrArg (Submitter.mk id) registration⟩

theorem found_of_origin (tracks : Tracks origin accepted stage) {id : TurtleId}
    {first : Member TurtleCommand} (known : origin.fleet.members.get? id = some first) :
    ∃ member, stage.fleet.members.get? id = some member ∧
      member.handle id = first.handle id := by
  have same := tracks.registered id
  rw [known] at same
  obtain ⟨member, found, registration⟩ := Option.map_eq_some_iff.mp same
  exact ⟨member, found, congrArg (Submitter.mk id) registration⟩

/-- Only the commands that the registered turtles accepted count. -/
theorem congr (tracks : Tracks origin accepted stage) {counted : Submitter → List TurtleCommand}
    (same : ∀ {id first}, origin.fleet.members.get? id = some first →
      counted (first.handle id) = accepted (first.handle id)) : Tracks origin counted stage := by
  refine { tracks with follows := fun {id first member} known found => ?_ }
  rw [same known]
  exact tracks.follows known found

/-- Submissions come in behind those that wait. -/
theorem takeIn (tracks : Tracks origin accepted stage)
    (arrivals : List (Submitter × TurtleCommand)) :
    Tracks origin (fun handle => accepted handle ++ addressed handle arrivals)
      { stage with fleet := stage.fleet.takeIn arrivals } := by
  obtain ⟨members, retired, left⟩ := stage.fleet.takeIn_eq arrivals
  refine { settings := ?_, catalog := ?_, registered := fun id => ?_,
           follows := fun {id first member} known found => ?_ }
  · rw [left]
    exact tracks.settings
  · rw [left]
    exact tracks.catalog
  · rw [← tracks.registered, Fleet.get?_takeIn, Option.map_map]
    rfl
  · rw [Fleet.get?_takeIn] at found
    obtain ⟨before, there, same⟩ := Option.map_eq_some_iff.mp found
    obtain ⟨ran, waiting, split, follows⟩ := tracks.follows known there
    obtain ⟨_, sameOrigin, handle⟩ := tracks.origin_of_found there
    cases known.symm.trans sameOrigin
    refine ⟨ran, waiting ++ addressed (before.handle id) arrivals, ?_, ?_⟩
    · rw [split, handle, List.append_assoc]
    · rw [← same]
      exact follows.takeIn _

variable [WorkMonitor M]

/-- A visit runs at most the next command of one turtle, in its own dimension. -/
theorem visit {round : Round TurtleCommand M MemoryWorld}
    (tracks : Tracks origin accepted round.stage) (apart : origin.Apart) (id : TurtleId)
    (nanos : Nat) : Tracks origin accepted (round.visit id nanos).stage := by
  rcases found : round.stage.fleet.members.get? id with _ | member
  · have left : round.visit id nanos = round := by simp only [Round.visit, found]
    rw [left]
    exact tracks
  obtain ⟨first, known, _⟩ := tracks.origin_of_found found
  obtain ⟨ran, waiting, split, follows⟩ := tracks.follows known found
  obtain ⟨answers, started, served, serves, foundAfter, heardAfter, _⟩ :=
    Round.visit_self found follows.ledger.audible nanos
  obtain ⟨ranNow, waitingNow, splitNow, now, beyond⟩ :=
    follows.serves tracks.settings tracks.catalog serves
  obtain ⟨members, monitor, kept⟩ := round.visit_fleet_eq id nanos
  refine { settings := ?_, catalog := ?_, registered := fun other => ?_,
           follows := fun {other origins neighbour} there foundOther => ?_ }
  · rw [kept]
    exact tracks.settings
  · rw [kept]
    exact tracks.catalog
  · rw [← tracks.registered]
    by_cases own : other = id
    · rw [own, foundAfter, found, Option.map_some, Option.map_some, serves.registration]
    · rw [(round.visit_of_ne own nanos).1]
  · by_cases own : other = id
    · subst own
      cases known.symm.trans there
      cases foundAfter.symm.trans foundOther
      refine ⟨ranNow, waitingNow, split.trans splitNow.symm, ?_⟩
      rw [heardAfter]
      exact now
    · -- the neighbour lives elsewhere, where the visited turtle cannot reach
      obtain ⟨same, silent, _⟩ := round.visit_of_ne own nanos
      rw [same] at foundOther
      obtain ⟨ranOther, waitingOther, splitOther, followsOther⟩ := tracks.follows there foundOther
      refine ⟨ranOther, waitingOther, splitOther, ?_⟩
      rw [silent]
      refine followsOther.elsewhere now.world.unarmed (beyond _ fun shared => own ?_)
      refine apart ?_ ?_ shared
      · rw [Fleet.turtle?, there]
        rfl
      · rw [Fleet.turtle?, known]
        rfl

theorem turns (arrivals : TurtleId → List (Submitter × TurtleCommand)) (nanos : TurtleId → Nat)
    {round : Round TurtleCommand M MemoryWorld} (tracks : Tracks origin accepted round.stage)
    (apart : origin.Apart) (ids : List TurtleId) :
    Tracks origin (fun handle => accepted handle ++ addressed handle (ids.flatMap arrivals))
      (ids.foldl (Round.turn arrivals nanos) round).stage := by
  induction ids generalizing round accepted with
  | nil => exact tracks.congr fun _ => List.append_nil _
  | cons id rest ih =>
    have taken : Tracks origin (fun handle => accepted handle ++ addressed handle (arrivals id))
        (round.takeIn (arrivals id)).stage := tracks.takeIn (arrivals id)
    apply (ih (taken.visit apart id (nanos id))).congr
    intro other first known
    rw [List.flatMap_cons, addressed_append, List.append_assoc]

theorem tick (tracks : Tracks origin accepted stage) (apart : origin.Apart)
    (arrivals : TurtleId → List (Submitter × TurtleCommand)) (nanos : TurtleId → Nat) :
    Tracks origin
      (fun handle => accepted handle ++ addressed handle (stage.fleet.visitOrder.flatMap arrivals))
      (stage.next (.tick arrivals nanos)) := by
  obtain ⟨cursor, after⟩ := stage.next_tick arrivals nanos
  let begun : Round TurtleCommand M MemoryWorld :=
    { stage := { stage with fleet := Operation.beginTick stage.fleet }
      report := { time := cappedAdd stage.fleet.time 1 } }
  have ready : Tracks origin accepted begun.stage :=
    ⟨tracks.settings, tracks.catalog, tracks.registered, tracks.follows⟩
  have ended := ready.turns arrivals nanos apart stage.fleet.visitOrder
  rw [after]
  exact ⟨ended.settings, ended.catalog, ended.registered, ended.follows⟩

/-- The deeds by which turtles work: submissions and ticks. -/
theorem next (tracks : Tracks origin accepted stage) (apart : origin.Apart)
    {deed : Deed TurtleCommand MemoryWorld} (works : deed.isSubmission || deed.isTick) :
    Tracks origin (fun handle => accepted handle ++ acceptedIn handle stage deed)
      (stage.next deed) := by
  have counted : Tracks origin
      (fun handle => accepted handle ++ addressed handle (deed.submissions stage.fleet))
      (stage.next deed) := by
    have does := stage.does_next deed (stage.whole_of_memory deed)
    generalize left : stage.next deed = after at does ⊢
    cases does with
    | declined silent untimed lasting =>
      rw [silent]
      exact tracks.congr fun _ => List.append_nil _
    | submitted submitter command => exact tracks.takeIn [(submitter, command)]
    | @submittedFor id member command found =>
      have submissions := tracks.takeIn [(⟨id, member.registration⟩, command)]
      rw [Deed.submissions, found]
      exact submissions
    | ticked arrivals nanos =>
      rw [← left]
      exact tracks.tick apart arrivals nanos
    | _ => cases works
  apply counted.congr
  intro id first known
  obtain ⟨member, found, handle⟩ := tracks.found_of_origin known
  rw [acceptedIn, ← handle, Fleet.holder?_of_handle found]
  rfl

theorem run {course : List (Deed TurtleCommand MemoryWorld)}
    (tracks : Tracks origin accepted stage) (apart : origin.Apart)
    (works : ∀ deed ∈ course, deed.isSubmission || deed.isTick) :
    Tracks origin (fun handle => accepted handle ++ stage.accepted handle course)
      (stage.run course) := by
  induction course generalizing stage accepted with
  | nil => exact tracks.congr fun _ => List.append_nil _
  | cons deed rest ih =>
    have first := tracks.next apart (works deed (by simp))
    have later := ih first fun other listed => works other (List.mem_cons_of_mem _ listed)
    exact later.congr fun _ => (List.append_assoc ..).symm

end Tracks

/-! ### Before the first tick -/

/-- Turtles are registered and wait for their first tick, in a world that was left to them. -/
structure Ready (stage : Stage TurtleCommand M MemoryWorld) : Prop where
  unarmed : stage.world.Unarmed
  silent : ∀ id, heard id stage.signals = []
  idle : ∀ {id member}, stage.fleet.members.get? id = some member →
    member.turtle.Neat ∧ member.turtle.animation.playing = false

theorem Ready.takeIn {stage : Stage TurtleCommand M MemoryWorld} (ready : stage.Ready)
    (arrivals : List (Submitter × TurtleCommand)) :
    Ready { stage with fleet := stage.fleet.takeIn arrivals } := by
  refine { ready with idle := fun {id member} found => ?_ }
  rw [Fleet.get?_takeIn] at found
  obtain ⟨before, there, same⟩ := Option.map_eq_some_iff.mp found
  have idle := ready.idle there
  rw [← same]
  exact idle

variable [WorkMonitor M]

/-- The deeds by which turtles get ready: registrations and submissions. -/
theorem Ready.next {stage : Stage TurtleCommand M MemoryWorld} (ready : stage.Ready)
    {deed : Deed TurtleCommand MemoryWorld} (prepares : deed.isRegistration || deed.isSubmission) :
    (stage.next deed).Ready := by
  have does := stage.does_next deed (stage.whole_of_memory deed)
  generalize stage.next deed = after at does ⊢
  have quieted {fleet : Fleet TurtleCommand M} {world : MemoryWorld} {news : List Signal}
      (quiet : Quiet news) (id : TurtleId) :
      heard id (Stage.mk fleet world (stage.signals ++ news)).signals = [] := by
    rw [heard_append, ready.silent, quiet.heard]
    rfl
  have calm {id : TurtleId} {world : WorldId} {pos : BlockPos} {template : TurtleSnapshot}
      {reply : Except WorldError EntityRef} {left : MemoryWorld}
      (spawned : stage.Answers id (.spawn world pos template) reply left) : left.Unarmed := by
    have unarmed := ready.unarmed.spawn world pos template
    rwa [spawn_of_answers spawned] at unarmed
  cases does with
  | declined silent untimed lasting => exact ready
  | submitted submitter command => exact ready.takeIn [(submitter, command)]
  | @submittedFor id member command found =>
    exact ready.takeIn [(⟨id, member.registration⟩, command)]
  | unspawned absent spawned quiet =>
    exact { unarmed := calm spawned, silent := quieted quiet
            idle := ready.idle }
  | discarded absent spawned foreign removed quiet =>
    refine { unarmed := ?_, silent := quieted quiet, idle := ready.idle }
    have unarmed := calm spawned
    rw [world_of_removed removed]
    exact unarmed
  | @enrolled spec entity world news absent spawned kind quiet =>
    refine { unarmed := calm spawned, silent := quieted quiet
             idle := fun {id member} found => ?_ }
    rw [Fleet.enroll, Fleet.setMember, Keyed.get?_insert] at found
    split at found
    · cases found
      refine ⟨⟨rfl, fun side => ?_, fun _ => rfl⟩, rfl⟩
      cases side <;> rfl
    · exact ready.idle found
  | _ => cases prepares

theorem Ready.run {stage : Stage TurtleCommand M MemoryWorld} (ready : stage.Ready)
    {setup : List (Deed TurtleCommand MemoryWorld)}
    (prepares : ∀ deed ∈ setup, deed.isRegistration || deed.isSubmission) :
    (stage.run setup).Ready ∧ ∀ handle, stage.published handle setup = [] := by
  induction setup generalizing stage with
  | nil => exact ⟨ready, fun _ => rfl⟩
  | cons deed rest ih =>
    have first := ready.next (prepares deed (by simp))
    obtain ⟨last, later⟩ := ih first fun other listed => prepares other (List.mem_cons_of_mem _ listed)
    refine ⟨last, fun handle => ?_⟩
    have nothing : publishedIn handle stage deed = [] := by
      simp [publishedIn, first.silent]
    rw [published, collect, nothing]
    exact later handle

omit [WorkMonitor M] in
theorem Opening.ready {start : Stage TurtleCommand M MemoryWorld} (opening : start.Opening)
    (unarmed : start.world.Unarmed) : start.Ready := by
  refine { unarmed, silent := fun id => ?_, idle := fun {id member} found => ?_ }
  · cases opening
    rfl
  · rw [opening.members] at found
    cases found

/-- When all turtles are ready, each is beside the reference that starts from there. -/
theorem tracks_of_ready {start : Stage TurtleCommand M MemoryWorld} (opening : start.Opening)
    {setup : List (Deed TurtleCommand MemoryWorld)} (ready : (start.run setup).Ready)
    (silent : ∀ handle, start.published handle setup = []) :
    Tracks (start.run setup) (fun handle => start.accepted handle setup) (start.run setup) := by
  refine { settings := rfl, catalog := rfl, registered := fun _ => rfl,
           follows := fun {id first member} known found => ?_ }
  cases known.symm.trans found
  obtain ⟨neat, idle⟩ := ready.idle found
  have account := Account.of_leads (leads_run start setup)
    (fun handle => .of_opening opening handle) (first.handle id)
  obtain ⟨ran, waiting, split, ledger⟩ := account.ledger (Fleet.holder?_of_handle found)
  rw [List.nil_append] at split ledger
  rw [silent] at ledger
  have nothing : ran = [] := by
    have free : first.pending = none := by
      simpa [idle] using ledger.animated
    have answered := congrArg List.length ledger.answered
    simpa [free] using answered.symm
  subst nothing
  refine ⟨[], waiting, split, ?_⟩
  rw [ready.silent]
  exact .start _ ledger idle neat ready.unarmed

/-- Scheduling never changes results. Turtles that have a dimension each are registered, and then
submissions and ticks follow in any order, under any work monitor. Then what was published for a
turtle so far is a beginning of what it would answer if it ran its commands one after another alone
in its dimension. As soon as nothing is queued or held back it is the whole of it, and the turtle
and its dimension are as they would be alone. -/
theorem scheduling_never_changes_results {start : Stage TurtleCommand M MemoryWorld}
    (opening : start.Opening) (unarmed : start.world.Unarmed)
    {setup course : List (Deed TurtleCommand MemoryWorld)}
    (prepares : ∀ deed ∈ setup, deed.isRegistration || deed.isSubmission)
    (works : ∀ deed ∈ course, deed.isSubmission || deed.isTick)
    (apart : (start.run setup).Apart) {id : TurtleId} {turtle : Turtle} {handle : Submitter}
    (found : (start.run setup).fleet.turtle? id = some turtle)
    (submits : (start.run setup).fleet.submitter id = .ok handle) :
    let ready := start.run setup
    let last := ready.run course
    let commands := start.accepted handle (setup ++ course)
    let alone := Solo.of turtle ready.world
    let answers := alone.responses ready.fleet.context 0 commands
    let state := alone.after ready.fleet.context commands
    heard id last.signals <+: answers ∧
      (last.fleet.queued? id = some 0 → last.fleet.hasPending id = false →
        heard id last.signals = answers ∧
        last.fleet.snapshot? id = some state.turtle.snapshot ∧
        last.world.view? turtle.world = state.world.view? turtle.world ∧
        ∀ pos, last.world.block turtle.world pos = state.world.block turtle.world pos) := by
  intro ready last commands alone answers state
  obtain ⟨first, known, same⟩ := Option.map_eq_some_iff.mp found
  subst same
  have own : first.handle id = handle := by
    rw [Fleet.submitter, known] at submits
    exact Except.ok.inj submits
  obtain ⟨isReady, silent⟩ := (opening.ready unarmed).run prepares
  have tracks : Tracks ready _ last := (tracks_of_ready opening isReady silent).run apart works
  obtain ⟨member, there, _⟩ := tracks.found_of_origin known
  obtain ⟨ran, waiting, split, follows⟩ := tracks.follows known there
  have all : commands = ran ++ waiting := by
    rw [← split, own]
    exact collect_append _ (leads_run start setup) course
  refine ⟨?_, fun queued settled => ?_⟩
  · refine ⟨member.pending.toList ++
      (alone.after ready.fleet.context ran).responses ready.fleet.context (0 + ran.length) waiting, ?_⟩
    rw [← List.append_assoc, follows.answered, ← Solo.responses_append, ← all]
  · have idle : member.pending = none := by
      simpa [Fleet.hasPending, there] using settled
    have done : waiting = [] := by
      have empty : member.queue.entries.length = 0 := by
        simpa [Fleet.queued?, there] using queued
      rw [follows.ledger.queued, length_numbered] at empty
      exact List.eq_nil_of_length_eq_zero empty
    have every : commands = ran := by rw [all, done, List.append_nil]
    have answered := follows.answered
    rw [idle, Option.toList_none, List.append_nil, ← every] at answered
    obtain ⟨serial, reborn⟩ := follows.reborn
    have view := follows.world.view
    rw [← every] at reborn view
    refine ⟨answered, ?_, view, fun pos => ?_⟩
    · have snapshot : state.turtle.snapshot = member.turtle.snapshot :=
        (congrArg Turtle.snapshot reborn).trans rfl
      rw [snapshot, Fleet.snapshot?, Fleet.turtle?, there]
      rfl
    · rw [last.world.block_eq, state.world.block_eq]
      exact congrArg (fun seen => (Option.map (Dimension.block · pos) seen).getD .air) view

/-- Two dimensions that are loaded everywhere. -/
def outposts : Stage TurtleCommand WorkBudget MemoryWorld :=
  let wide : Dimension := { loaded := fun _ => true }
  { fleet := Sample.fleet
    world := { dimensions := (Keyed.empty.insert "overworld" wide).insert "nether" wide } }

/-- A turtle for each of the two dimensions. -/
def outpostSetup : List (Deed TurtleCommand MemoryWorld) :=
  [.register { Sample.scout with fuelLevel := 9 }, .submit "scout" (.move .up),
    .register { Sample.scout with turtleId := "diver", world := "nether", fuelLevel := 9 }]

def outpostCourse : List (Deed TurtleCommand MemoryWorld) :=
  [Sample.tick, .submit "diver" (.move .down), .submit "diver" (.move .down), Sample.tick,
    Sample.tick, Sample.tick, .submit "diver" .getFuelLevel, Sample.tick, Sample.tick]

theorem scheduling_never_changes_results_outposts :
    outposts.Opening ∧ outposts.world.Unarmed ∧
      (∀ deed ∈ outpostSetup, deed.isRegistration || deed.isSubmission) ∧
      (∀ deed ∈ outpostCourse, deed.isSubmission || deed.isTick) ∧
      (outposts.run outpostSetup).Apart ∧
      (heard "diver" ((outposts.run outpostSetup).run outpostCourse).signals).map (·.id) = [1, 2, 3] := by
  have opening : outposts.Opening := Sample.opening_in _
  have unarmed : outposts.world.Unarmed := ⟨rfl, rfl⟩
  have prepares : ∀ deed ∈ outpostSetup, deed.isRegistration || deed.isSubmission := by
    simp [outpostSetup, Deed.isRegistration, Deed.isSubmission]
  have works : ∀ deed ∈ outpostCourse, deed.isSubmission || deed.isTick := by
    simp [outpostCourse, Sample.tick, Deed.isTick, Deed.isSubmission]
  have homes (id : TurtleId) (turtle : Turtle)
      (found : (outposts.run outpostSetup).fleet.turtle? id = some turtle) :
      id = "diver" ∧ turtle.world = "nether" ∨ id = "scout" ∧ turtle.world = "overworld" := by
    have listed : id ∈ (outposts.run outpostSetup).fleet.turtleIds := by
      obtain ⟨member, known, _⟩ := Option.map_eq_some_iff.mp found
      exact (Keyed.mem_keys_iff _ _).mpr (Option.isSome_of_eq_some known)
    have ids : (outposts.run outpostSetup).fleet.turtleIds = ["diver", "scout"] := by rfl
    have world := congrArg (Option.map Turtle.world) found
    rw [ids] at listed
    rcases List.mem_cons.mp listed with rfl | other
    · exact .inl ⟨rfl, (Option.some.inj world).symm⟩
    · cases List.mem_singleton.mp other
      exact .inr ⟨rfl, (Option.some.inj world).symm⟩
  have apart : (outposts.run outpostSetup).Apart := by
    intro id other first second foundFirst foundSecond shared
    rcases homes id first foundFirst with ⟨rfl, diving⟩ | ⟨rfl, walking⟩ <;>
      rcases homes other second foundSecond with ⟨rfl, divingToo⟩ | ⟨rfl, walkingToo⟩ <;>
      simp_all
  have found : (outposts.run outpostSetup).fleet.turtle? "diver" = some _ := rfl
  have submits : (outposts.run outpostSetup).fleet.submitter "diver" = .ok ⟨"diver", 1⟩ := rfl
  have results := scheduling_never_changes_results opening unarmed prepares works apart found submits
  refine ⟨opening, unarmed, prepares, works, apart, ?_⟩
  rw [(results.2 rfl rfl).1]
  rfl

end Stage

end TurtleFleet
