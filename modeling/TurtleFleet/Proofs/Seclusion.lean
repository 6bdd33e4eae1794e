import TurtleFleet.Proofs.Career
import TurtleFleet.Proofs.Fairness
import TurtleFleet.Proofs.Rounds

/-! Seclusion: a turtle that acts while all others have nothing to do. The visits of the others change
nothing that it could notice, so that a tick is to it one visit in an untouched world: its animation
goes one step further, or it runs its next command. -/

namespace TurtleFleet

variable {C M W : Type}

/-! ### The ticks that are left -/

namespace Animation

/-- The ticks until nothing plays any more. Whatever plays takes one tick at least. -/
def left (animation : Animation) : Nat :=
  if animation.playing then max (animation.duration - animation.progress) 1 else 0

theorem left_eq_zero_iff {animation : Animation} :
    animation.left = 0 ↔ animation.playing = false := by
  unfold left
  cases animation.playing with
  | false => simp
  | true =>
    simp only [↓reduceIte, reduceCtorEq, iff_false]
    omega

/-- Every tick takes away one, if the duration fits into its word. -/
theorem left_tick {animation : Animation} (fits : animation.duration < word32) :
    animation.tick.2.left = animation.left - 1 := by
  cases plays : animation.playing with
  | false => simp [tick_of_still plays, left, plays]
  | true =>
    rcases Nat.lt_or_ge (animation.progress + 1) animation.duration with more | last
    · have again : playing { animation with progress := animation.progress + 1 } = true := plays
      simp only [tick_of_more plays fits more, left, again, plays, ↓reduceIte]
      omega
    · have still : animation.reset.playing = false := rfl
      simp only [tick_of_last plays fits last, left, still, plays, Bool.false_eq_true, ↓reduceIte]
      omega

end Animation

/-! ### The same turtle -/

theorem Equipment.get?_update (equipment : Equipment) (turtle : TurtleId) (time : Nat)
    (attached : Bool) (side : Side) :
    (equipment.update turtle time attached).1.get? side = equipment.get? side := by
  have both : (equipment.update turtle time attached).1 =
      ((equipment.updateSide turtle time attached .left).1.updateSide turtle time attached .right).1 :=
    rfl
  rw [both, get?_updateSide, get?_updateSide]

/-- A turtle that differs from another one at most in what it plays and in the handles of its
upgrades. -/
structure Turtle.Resembles (turtle other : Turtle) : Prop where
  same : ∃ equipment animation, other = { turtle with equipment, animation }
  upgrades : ∀ side, other.equipment.get? side = turtle.equipment.get? side
  paced : other.animation.duration = turtle.animation.duration

namespace Turtle.Resembles

variable {turtle other third : Turtle}

theorem refl (turtle : Turtle) : turtle.Resembles turtle := ⟨⟨_, _, rfl⟩, fun _ => rfl, rfl⟩

theorem trans (resembles : turtle.Resembles other) (later : other.Resembles third) :
    turtle.Resembles third := by
  obtain ⟨_, _, rfl⟩ := resembles.same
  obtain ⟨equipment, animation, rfl⟩ := later.same
  refine ⟨⟨equipment, animation, rfl⟩, fun side => ?_, later.paced.trans resembles.paced⟩
  exact (later.upgrades side).trans (resembles.upgrades side)

end Turtle.Resembles

theorem Member.resembles_woken (member : Member C) (id : TurtleId) (time : Nat) :
    member.turtle.Resembles (member.woken id time).turtle := by
  rw [woken_eq]
  exact ⟨⟨_, _, rfl⟩, fun side => Equipment.get?_update .., Animation.duration_tick _⟩

/-! ### Turns without commands -/

/-- The turtle has no command to start. -/
def Fleet.Spent (fleet : Fleet C M) (id : TurtleId) : Prop :=
  ∀ member, fleet.members.get? id = some member → member.queue.entries = []

namespace Round

/-- Nothing was started from one round to another, and no command came in. -/
structure Idles (round later : Round C M W) : Prop where
  world : later.stage.world = round.stage.world
  monitor : later.stage.fleet.monitor = round.stage.fleet.monitor
  executed : later.report.executed = round.report.executed
  spent : ∀ id, round.stage.fleet.Spent id → later.stage.fleet.Spent id

theorem Idles.refl (round : Round C M W) : round.Idles round := ⟨rfl, rfl, rfl, fun _ spent => spent⟩

theorem Idles.trans {round between later : Round C M W} (idles : round.Idles between)
    (further : between.Idles later) : round.Idles later where
  world := further.world.trans idles.world
  monitor := further.monitor.trans idles.monitor
  executed := further.executed.trans idles.executed
  spent id spent := further.spent id (idles.spent id spent)

theorem idles_wake {round : Round C M W} {id : TurtleId} {member : Member C}
    (found : round.stage.fleet.members.get? id = some member) :
    round.Idles (round.wake id member).2 where
  world := rfl
  monitor := rfl
  executed := rfl
  spent other spent woken known := by
    rw [wake_fleet, Fleet.setMember, Keyed.get?_insert] at known
    split at known
    · rename_i same
      cases known
      rw [Member.woken_queue]
      exact spent member (same ▸ found)
    · exact spent woken known

variable [Command C] [World W] [WorkMonitor M]

theorem idles_visit {round : Round C M W} {id : TurtleId} (spent : round.stage.fleet.Spent id)
    (nanos : Nat) : round.Idles (round.visit id nanos) := by
  have visits := visits_visit round id nanos
  generalize round.visit id nanos = later at visits ⊢
  cases visits with
  | absent missing => exact .refl round
  | busy found plays => exact idles_wake found
  | idle found still empty => exact idles_wake found
  | deferred found still waiting denied =>
    rw [spent _ found] at waiting
    cases waiting
  | executed found still waiting allowed =>
    rw [spent _ found] at waiting
    cases waiting

theorem idles_turns {round : Round C M W} {ids : List TurtleId}
    (spent : ∀ id ∈ ids, round.stage.fleet.Spent id) (nanos : TurtleId → Nat) :
    round.Idles (ids.foldl (turn (fun _ => []) nanos) round) := by
  induction ids generalizing round with
  | nil => exact .refl round
  | cons id rest ih =>
    obtain ⟨own, others⟩ := List.forall_mem_cons.mp spent
    have visited : round.Idles (turn (fun _ => []) nanos round id) := idles_visit own (nanos id)
    exact visited.trans (ih fun other listed => visited.spent other (others other listed))

theorem get?_quietTurns (round : Round C M W) (nanos : TurtleId → Nat) {ids : List TurtleId}
    {other : TurtleId} (apart : other ∉ ids) :
    (ids.foldl (turn (fun _ => []) nanos) round).stage.fleet.members.get? other =
      round.stage.fleet.members.get? other := by
  have quiet : ids.flatMap (fun _ => ([] : List (Submitter × C))) = [] :=
    List.flatMap_eq_nil_iff.mpr fun _ _ => rfl
  rw [(turns_of_not_mem (fun _ => []) nanos round apart).1, quiet]
  cases round.stage.fleet.members.get? other <;> rfl

end Round

/-! ### Ticks of a secluded turtle -/

/-- A tick during which nothing is submitted. -/
abbrev Deed.quietTick (nanos : TurtleId → Nat) : Deed C W := .tick (fun _ => []) nanos

/-- The commands that are started in a course, in their order. -/
def Stage.executedIn [Command C] [World W] [WorkMonitor M] (stage : Stage C M W)
    (course : List (Deed C W)) : List ExecutedCommand :=
  (stage.reports course).flatMap (·.executed)

theorem Stage.executedIn_cons [Command C] [World W] [WorkMonitor M] (stage : Stage C M W)
    (deed : Deed C W) (course : List (Deed C W)) :
    stage.executedIn (deed :: course) =
      stage.executedIn [deed] ++ (stage.next deed).executedIn course := by
  simp [executedIn, reports, collect]

theorem Stage.executedIn_submit [Command C] [World W] [WorkMonitor M] (stage : Stage C M W)
    (id : TurtleId) (command : C) : stage.executedIn [.submit id command] = [] := rfl

theorem Stage.executedIn_append [Command C] [WorkMonitor M] (stage : Stage C M MemoryWorld)
    (first second : List (Deed C MemoryWorld)) :
    stage.executedIn (first ++ second) =
      stage.executedIn first ++ (stage.run first).executedIn second := by
  rw [executedIn, reports, collect_append _ (leads_run stage first), List.flatMap_append]
  rfl

theorem Stage.executedIn_quietTick [Command C] [World W] [WorkMonitor M] (stage : Stage C M W)
    (nanos : TurtleId → Nat) : stage.executedIn [.quietTick nanos] =
      (Operation.tickRound (fun _ => []) nanos stage).report.executed :=
  List.append_nil _

/-- No other turtle has a command, and the work monitor grants the first command of every tick. -/
structure Stage.Secludes [WorkMonitor M] (stage : Stage C M W) (id : TurtleId) : Prop where
  others : ∀ other, other ≠ id → stage.fleet.Spent other
  willing : WorkMonitor.Willing stage.fleet.monitor

namespace Stage.Secludes

section

variable [Command C] [World W] [WorkMonitor M] {stage : Stage C M W} {id : TurtleId}
  {member : Member C}

/-- The round in which a secluded turtle is visited, and what the tick leaves of that visit. -/
structure Visited (stage : Stage C M W) (id : TurtleId) (member : Member C) (nanos : TurtleId → Nat)
    (round : Round C M W) : Prop where
  found : round.stage.fleet.members.get? id = some member
  world : round.stage.world = stage.world
  time : round.stage.fleet.time = cappedAdd stage.fleet.time 1
  unstarted : round.report.executed = []
  granted : (WorkMonitor.canWork round.stage.fleet.monitor).1 = true
  others : ∀ other, other ≠ id → round.stage.fleet.Spent other
  foundAfter : (stage.next (.quietTick nanos)).fleet.members.get? id =
    (round.visit id (nanos id)).stage.fleet.members.get? id
  worldAfter : (stage.next (.quietTick nanos)).world = (round.visit id (nanos id)).stage.world
  reports : (Operation.tickRound (fun _ => []) nanos stage).report.executed =
    (round.visit id (nanos id)).report.executed
  secludes : (stage.next (.quietTick nanos)).Secludes id

theorem exists_visited (secludes : stage.Secludes id)
    (found : stage.fleet.members.get? id = some member) (nanos : TurtleId → Nat) :
    ∃ round, Visited stage id member nanos round := by
  obtain ⟨first, second, split, notEarlier, notLater, whole⟩ :=
    Operation.tickRound_split (fun _ => []) nanos (Option.isSome_of_eq_some found)
  let round := first.foldl (Round.turn (fun _ => []) nanos) (Operation.opened stage)
  have before : (Operation.opened stage).Idles round :=
    Round.idles_turns (fun other listed => secludes.others other fun same =>
      notEarlier (same ▸ listed)) nanos
  have kept : round.stage.fleet.members.get? id = some member :=
    ((Operation.opened stage).get?_quietTurns nanos notEarlier).trans found
  have others : ∀ other, other ≠ id → round.stage.fleet.Spent other := fun other apart =>
    before.spent other (secludes.others other apart)
  have othersAfter : ∀ other, other ≠ id →
      (round.visit id (nanos id)).stage.fleet.Spent other := by
    intro other apart neighbour known
    rw [(round.visit_of_ne apart (nanos id)).1] at known
    exact others other apart neighbour known
  have after : (round.visit id (nanos id)).Idles (Operation.tickRound (fun _ => []) nanos stage) := by
    rw [whole]
    exact Round.idles_turns (fun other listed => othersAfter other fun same =>
      notLater (same ▸ listed)) nanos
  obtain ⟨cursor, next⟩ := stage.next_tick (fun _ => []) nanos
  refine ⟨round, ?_⟩
  refine { found := kept, world := before.world, time := ?_, unstarted := before.executed,
           granted := ?_, others, foundAfter := ?_, worldAfter := ?_, reports := after.executed,
           secludes := ⟨?_, ?_⟩ }
  · exact congrArg Context.time (Round.turns_context (fun _ => []) nanos (Operation.opened stage) first)
  · rw [before.monitor]
    exact secludes.willing _ .rest
  · rw [next]
    show (Operation.tickRound (fun _ => []) nanos stage).stage.fleet.members.get? id = _
    rw [whole]
    exact Round.get?_quietTurns _ nanos notLater
  · rw [next]
    exact after.world
  · rw [next]
    exact fun other apart => after.spent other (othersAfter other apart)
  · exact secludes.willing.later (stage.monitor_tick (fun _ => []) nanos)

theorem submit (secludes : stage.Secludes id) (found : stage.fleet.members.get? id = some member)
    (command : C) :
    (stage.next (.submit id command)).fleet.members.get? id = some (member.takeIn [command]) ∧
      (stage.next (.submit id command)).world = stage.world ∧
      (stage.next (.submit id command)).Secludes id := by
  have does := Does.submit stage id command
  generalize stage.next (.submit id command) = after at does ⊢
  cases does with
  | declined silent untimed lasting => simp [Deed.submissions, found] at silent
  | @submittedFor _ registered _ known =>
    cases found.symm.trans known
    have taken (other : TurtleId) := Fleet.get?_submitVia stage.fleet (member.handle id) command other
    have monitor : (stage.fleet.submitVia (member.handle id) command).2.monitor =
        stage.fleet.monitor := by
      obtain ⟨members, retired, same⟩ := stage.fleet.submitVia_eq (member.handle id) command
      rw [same]
    refine ⟨?_, rfl, ?_, ?_⟩
    · exact (taken id).trans (by simp [found, addressed_cons])
    · intro other apart neighbour known
      have same := (taken other).symm.trans known
      obtain ⟨old, there, rfl⟩ := Option.map_eq_some_iff.mp same
      have elsewhere : member.handle id ≠ old.handle other := fun same =>
        apart (congrArg Submitter.turtleId same).symm
      simpa [addressed_cons, elsewhere] using secludes.others other apart old there
    · exact monitor ▸ secludes.willing

/-- While its animation goes on, or as long as it has no command, a secluded turtle only rests. -/
theorem rests (secludes : stage.Secludes id) (found : stage.fleet.members.get? id = some member)
    (nanos : TurtleId → Nat)
    (waits : (member.woken id (cappedAdd stage.fleet.time 1)).turtle.animation.playing = true ∨
      member.queue.entries = []) :
    (stage.next (.quietTick nanos)).fleet.members.get? id =
        some (member.woken id (cappedAdd stage.fleet.time 1)) ∧
      (stage.next (.quietTick nanos)).world = stage.world ∧
      stage.executedIn [.quietTick nanos] = [] ∧
      (stage.next (.quietTick nanos)).Secludes id := by
  obtain ⟨round, visited⟩ := secludes.exists_visited found nanos
  have rested : round.visit id (nanos id) = (round.wake id member).2 := by
    have visits := Round.visits_visit round id (nanos id)
    rw [← visited.time] at waits
    generalize round.visit id (nanos id) = later at visits ⊢
    cases visits with
    | absent missing =>
      rw [visited.found] at missing
      cases missing
    | busy same plays =>
      cases visited.found.symm.trans same
      rfl
    | idle same still empty =>
      cases visited.found.symm.trans same
      rfl
    | deferred same still waiting denied =>
      cases visited.found.symm.trans same
      simp [still, waiting] at waits
    | executed same still waiting allowed =>
      cases visited.found.symm.trans same
      simp [still, waiting] at waits
  refine ⟨?_, ?_, ?_, visited.secludes⟩
  · rw [visited.foundAfter, rested, Round.wake_fleet, Fleet.setMember, Keyed.get?_insert_self,
      visited.time]
  · rw [visited.worldAfter, rested]
    exact visited.world
  · rw [executedIn_quietTick, visited.reports, rested]
    exact visited.unstarted

end

/-- A secluded turtle that is idle runs its next command, if it is known how the command ends. -/
theorem works {M : Type} [WorkMonitor M] {stage : Stage TurtleCommand M MemoryWorld}
    {id : TurtleId} {member : Member TurtleCommand} (secludes : stage.Secludes id)
    (found : stage.fleet.members.get? id = some member) (nanos : TurtleId → Nat)
    {entry : QueueEntry TurtleCommand} {rest : List (QueueEntry TurtleCommand)}
    {result : Except Stop (List Json)} {left : Turtle} {after : MemoryWorld}
    {notices : List EquipmentNotice}
    (still : (member.woken id (cappedAdd stage.fleet.time 1)).turtle.animation.playing = false)
    (waiting : member.queue.entries = entry :: rest)
    (ends : ∀ context, Action.Ends (entry.command.execute context)
      (member.woken id (cappedAdd stage.fleet.time 1)).turtle stage.world result left after notices) :
    ∃ served, (stage.next (.quietTick nanos)).fleet.members.get? id = some served ∧
      served.turtle = left ∧ served.queue = { member.queue with entries := rest } ∧
      (stage.next (.quietTick nanos)).world = after ∧
      stage.executedIn [.quietTick nanos] = [Task.record (entry, result) id] ∧
      (stage.next (.quietTick nanos)).Secludes id := by
  obtain ⟨round, visited⟩ := secludes.exists_visited found nanos
  rw [← visited.time] at still ends
  rw [← visited.world] at ends
  have task : ∃ ended, round.task? id = some (entry, ended) :=
    ⟨_, by simp [Round.task?, visited.found, still, waiting, visited.granted]; rfl⟩
  obtain ⟨ended, task⟩ := task
  have attends := round.attends_visit id (nanos id)
  rw [task] at attends
  have foundAfter := visited.foundAfter
  have worldAfter := visited.worldAfter
  have reports := visited.reports
  generalize round.visit id (nanos id) = later at attends foundAfter worldAfter reports
  cases attends with
  | @works _ _ others monitor same _ queued =>
    cases visited.found.symm.trans same
    cases waiting.symm.trans queued
    let awake := (round.wake id member).2.watched monitor
    obtain ⟨effects, ran, _⟩ := ends round.stage.fleet.context
      { turtle := (member.woken id round.stage.fleet.time).turtle, world := round.stage.world,
        otherMovers := awake.stage.fleet.moversExcept id } rfl rfl
    have executed := Round.execute_of_ran awake
      { member.woken id round.stage.fleet.time with queue := { member.queue with entries := rest } }
      ran (nanos id)
    rw [executed] at foundAfter worldAfter reports
    refine ⟨_, foundAfter.trans (Keyed.get?_insert_self ..), rfl, rfl, worldAfter, ?_,
      visited.secludes⟩
    rw [executedIn_quietTick, reports]
    have unstarted : awake.report.executed = [] := visited.unstarted
    rw [unstarted]
    rfl

end Stage.Secludes

end TurtleFleet
