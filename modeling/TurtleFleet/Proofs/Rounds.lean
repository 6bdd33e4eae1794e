import TurtleFleet.Proofs.ByteOrder
import TurtleFleet.Proofs.Cursor
import TurtleFleet.Proofs.Fairness
import TurtleFleet.Proofs.Rewiring
import TurtleFleet.Proofs.Tame

/-! Rounds. Whatever the work monitor says and however the commands end, a tick goes round all turtles
once: each of them has its visit, each of its upgrades has its update, and its animation goes one step
further. The order of the visits is that of the names from the cursor on, and it does not matter
whether a turtle is still registered under the name at which the cursor stands. Commands that are not
tame may give updates of their own and replace animations, but they cannot disturb the visits. -/

namespace TurtleFleet

variable {C M W : Type}

/-! ### Updates -/

/-- The updates among some signals, in the order in which the upgrades got them. -/
def updatesIn (signals : List Signal) : List EquipmentNotice :=
  (noticesIn signals).filter (·.isUpdate)

theorem updatesIn_append (first second : List Signal) :
    updatesIn (first ++ second) = updatesIn first ++ updatesIn second := by
  rw [updatesIn, noticesIn_append, List.filter_append]
  rfl

namespace Equipment

/-- The updates that are due at a time: that of the left upgrade before that of the right one. -/
def updates (equipment : Equipment) (turtle : TurtleId) (time : Nat) : List EquipmentNotice :=
  Side.all.flatMap fun side => (equipment.get? side).toList.map (.updated · turtle side time)

theorem get?_updateSide (equipment : Equipment) (turtle : TurtleId) (time : Nat) (attached : Bool)
    (side other : Side) :
    (equipment.updateSide turtle time attached side).1.get? other = equipment.get? other := by
  unfold updateSide
  split
  · rw [refresh_eq]
    show ((equipment.renewed turtle side (equipment.get? side)).mount other).upgrade = _
    rw [mount_renewed]
    split
    · rename_i same
      rw [same]
    · rfl
  · rfl

theorem filter_updateSide (equipment : Equipment) (turtle : TurtleId) (time : Nat) (attached : Bool)
    (side : Side) :
    (equipment.updateSide turtle time attached side).2.filter (·.isUpdate) =
      (equipment.get? side).toList.map (.updated · turtle side time) := by
  have told : ((equipment.get? side).toList.map (EquipmentNotice.updated · turtle side time)).filter
      (·.isUpdate) = (equipment.get? side).toList.map (.updated · turtle side time) := by
    cases equipment.get? side <;> rfl
  unfold updateSide
  split
  · rw [refresh_eq]
    dsimp only
    rw [List.filter_append, told]
    exact List.append_nil _
  · exact told

theorem filter_update (equipment : Equipment) (turtle : TurtleId) (time : Nat) (attached : Bool) :
    (equipment.update turtle time attached).2.filter (·.isUpdate) = equipment.updates turtle time := by
  let left := equipment.updateSide turtle time attached .left
  have both : (equipment.update turtle time attached).2 =
      left.2 ++ (left.1.updateSide turtle time attached .right).2 := rfl
  rw [both, List.filter_append, filter_updateSide, filter_updateSide, get?_updateSide]
  simp [updates, Side.all]

end Equipment

/-- The updates that are due to a registered turtle. -/
def Fleet.updatesFor (fleet : Fleet C M) (time : Nat) (id : TurtleId) : List EquipmentNotice :=
  match fleet.members.get? id with
  | some member => member.turtle.equipment.updates id time
  | none => []

/-! ### Visits -/

/-- An animation goes one step further. When it is over, a command that was started may have begun the
next one. -/
inductive Animation.Advances (before : Animation) (started : List ExecutedCommand) :
    Animation → Prop where
  | stepped : Advances before started before.tick.2
  | begun {after : Animation} {kind : AnimationKind} (ended : before.tick.1 = false)
      (ran : started ≠ []) (begins : before.tick.2.begin kind = .ok after) :
      Advances before started after

namespace Round

/-- What a visit does to its turtle whatever comes of a tame command. -/
structure Tends (before : Round C M W) (id : TurtleId) (member : Member C) (after : Round C M W) :
    Prop where
  updated : updatesIn after.stage.signals = updatesIn before.stage.signals ++
    member.turtle.equipment.updates id before.stage.fleet.time
  animated : ∃ served, after.stage.fleet.members.get? id = some served ∧
    member.turtle.animation.Advances (after.report.startedFor id) served.turtle.animation

theorem updatesIn_wake (round : Round C M W) (id : TurtleId) (member : Member C) :
    updatesIn (round.wake id member).2.stage.signals = updatesIn round.stage.signals ++
      member.turtle.equipment.updates id round.stage.fleet.time := by
  have due : (member.updateUpgrades id round.stage.fleet.time).2.filter (·.isUpdate) =
      member.turtle.equipment.updates id round.stage.fleet.time :=
    Equipment.filter_update ..
  rw [updatesIn, noticesIn_wake, List.filter_append, due]
  rfl

variable [Command C] [World W] [WorkMonitor M]

theorem tends_visit (tame : Command.Tame C W) {round : Round C M W} {id : TurtleId}
    {member : Member C} (found : round.stage.fleet.members.get? id = some member) (nanos : Nat) :
    round.Tends id member (round.visit id nanos) := by
  have rouses := rouses_visit found nanos
  generalize round.visit id nanos = left at rouses ⊢
  have stepped : (member.woken id round.stage.fleet.time).turtle.animation =
      member.turtle.animation.tick.2 := by rw [Member.woken_eq]
  have told := updatesIn_wake round id member
  cases rouses with
  | waits monitor deferred =>
    exact ⟨told, member.woken id round.stage.fleet.time, Keyed.get?_insert_self .., stepped ▸ .stepped⟩
  | @works entry rest monitor still waiting =>
    let ready := (round.wake id member).2.watched monitor
    let begun : Member C :=
      { member.woken id round.stage.fleet.time with queue := { member.queue with entries := rest } }
    rcases ran : (Command.execute entry.command ready.stage.fleet.context).outcome
      { turtle := begun.turtle, world := ready.stage.world,
        otherMovers := ready.stage.fleet.moversExcept id } with ⟨result, scene⟩
    have kept := tame.execute entry.command ready.stage.fleet.context begun.turtle ready.stage.world
      (ready.stage.fleet.moversExcept id)
    rw [ran] at kept
    have left : ready.execute id begun entry nanos = _ := ready.execute_of_ran begun ran nanos
    show round.Tends id member (ready.execute id begun entry nanos)
    rw [left]
    refine ⟨?_, _, Keyed.get?_insert_self .., ?_⟩
    · have untold : updatesIn (scene.effects.map .effect) = [] := by
        rw [updatesIn, noticesIn_effects]
        exact kept.untold
      have before : updatesIn ready.stage.signals = _ := told
      dsimp only
      rw [updatesIn_append, updatesIn_append, untold, before, List.append_nil]
      split <;> exact List.append_nil _
    · rw [Member.playing_woken] at still
      have begins : member.turtle.animation.tick.2.BeginsOnce scene.turtle.animation :=
        stepped ▸ kept.begins
      rcases begins with same | ⟨kind, began⟩
      · exact same ▸ .stepped
      · exact .begun still (by simp [TickReport.startedFor]) began

end Round

/-! ### Ticks -/

/-- The order of the visits, byte by byte: the names from the cursor on, and then those below it. -/
theorem Fleet.visitOrder_eq (fleet : Fleet C M) :
    fleet.visitOrder = match fleet.cursor with
      | none => fleet.turtleIds
      | some cursor =>
        (fleet.turtleIds.filter fun id => !decide (Text.bytes id < Text.bytes cursor)) ++
          fleet.turtleIds.filter fun id => Text.bytes id < Text.bytes cursor := by
  have ascending : fleet.turtleIds.Pairwise (· < ·) := fleet.members.keys_pairwise
  rw [visitOrder]
  cases fleet.cursor with
  | none => rfl
  | some cursor =>
    simp only [rotateTo, Text.bytes_lt_bytes_iff]
    rw [dropWhile_eq_filter ascending, takeWhile_eq_filter ascending]

/-- From one stage to the next all turtles of the fleet were served. -/
structure Stage.GoesRound [Command C] [World W] [WorkMonitor M] (before after : Stage C M W)
    (report : TickReport) (arrivals : TurtleId → List (Submitter × C)) (nanos : TurtleId → Nat) :
    Prop where
  time : after.fleet.time = cappedAdd before.fleet.time 1
  ascending : before.fleet.turtleIds.Pairwise fun first second =>
    Text.bytes first < Text.bytes second
  order : before.fleet.visitOrder = match before.fleet.cursor with
    | none => before.fleet.turtleIds
    | some cursor =>
      (before.fleet.turtleIds.filter fun id => !decide (Text.bytes id < Text.bytes cursor)) ++
        before.fleet.turtleIds.filter fun id => Text.bytes id < Text.bytes cursor
  once : before.fleet.visitOrder.Nodup ∧
    ∀ id, id ∈ before.fleet.visitOrder ↔ (before.fleet.members.get? id).isSome
  /-- All that becomes of a turtle is its visit, before and after which submissions come in. -/
  visited : ∀ id member, before.fleet.members.get? id = some member → ∃ early late,
    Operation.Reaches arrivals nanos before id member early late ∧
    after.fleet.members.get? id =
      (((Operation.reached arrivals nanos before id).visit id (nanos id)).stage.fleet.members.get?
        id).map (·.takeIn late)
  updated : Command.Tame C W → updatesIn after.signals = updatesIn before.signals ++
    before.fleet.visitOrder.flatMap (before.fleet.updatesFor after.fleet.time)
  animated : Command.Tame C W → ∀ id member, before.fleet.members.get? id = some member →
    ∃ served, after.fleet.members.get? id = some served ∧
      member.turtle.animation.Advances (report.startedFor id) served.turtle.animation

namespace Operation

variable [Command C] [World W] [WorkMonitor M]
variable (arrivals : TurtleId → List (Submitter × C)) (nanos : TurtleId → Nat)

/-- A visit during a tick finds the turtle as it was at the start of the tick. -/
theorem exists_tends (tame : Command.Tame C W) {stage : Stage C M W} {id : TurtleId}
    {member : Member C} (found : stage.fleet.members.get? id = some member) :
    ∃ early late, Reaches arrivals nanos stage id member early late ∧
      Round.Tends (reached arrivals nanos stage id) id (member.takeIn early)
        ((reached arrivals nanos stage id).visit id (nanos id)) := by
  obtain ⟨early, late, reaches⟩ := exists_reaches arrivals nanos found
  exact ⟨early, late, reaches, Round.tends_visit tame reaches.found (nanos id)⟩

theorem Reaches.time {arrivals : TurtleId → List (Submitter × C)} {nanos : TurtleId → Nat}
    {stage : Stage C M W} {id : TurtleId} {member : Member C} {early late : List C}
    (reaches : Reaches arrivals nanos stage id member early late) :
    (reached arrivals nanos stage id).stage.fleet.time = cappedAdd stage.fleet.time 1 :=
  congrArg Context.time reaches.context

theorem updatesIn_tickRound (tame : Command.Tame C W) (stage : Stage C M W) :
    updatesIn (tickRound arrivals nanos stage).stage.signals = updatesIn stage.signals ++
      stage.fleet.visitOrder.flatMap (stage.fleet.updatesFor (cappedAdd stage.fleet.time 1)) := by
  refine tickRound_of_visits arrivals nanos (fun ids round =>
    updatesIn round.stage.signals = updatesIn stage.signals ++
      ids.flatMap (stage.fleet.updatesFor (cappedAdd stage.fleet.time 1)))
    (List.append_nil _).symm ?_
  intro first id round listed before ready
  obtain ⟨member, found⟩ := Option.isSome_iff_exists.mp ((stage.fleet.mem_visitOrder id).mp listed)
  obtain ⟨early, late, reaches, tends⟩ := exists_tends arrivals nanos tame found
  have silent : updatesIn (reached arrivals nanos stage id).stage.signals =
      updatesIn round.stage.signals := by
    rw [← ready, (round.takeIn_stage (arrivals id)).2.1]
  have due : stage.fleet.updatesFor (cappedAdd stage.fleet.time 1) id =
      member.turtle.equipment.updates id (cappedAdd stage.fleet.time 1) := by
    rw [Fleet.updatesFor, found]
  rw [tends.updated, silent, before, Member.takeIn_turtle, reaches.time, List.flatMap_append,
    List.flatMap_singleton, due, List.append_assoc]

theorem advances_tickRound (tame : Command.Tame C W) {stage : Stage C M W} {id : TurtleId}
    {member : Member C} (found : stage.fleet.members.get? id = some member) :
    ∃ served, (tickRound arrivals nanos stage).stage.fleet.members.get? id = some served ∧
      member.turtle.animation.Advances ((tickRound arrivals nanos stage).report.startedFor id)
        served.turtle.animation := by
  obtain ⟨early, late, reaches, tends⟩ := exists_tends arrivals nanos tame found
  obtain ⟨served, foundThen, advances⟩ := tends.animated
  refine ⟨served.takeIn late, by rw [reaches.foundAfter, foundThen]; rfl, ?_⟩
  rw [Member.takeIn_turtle, reaches.startedAfter]
  rwa [Member.takeIn_turtle] at advances

end Operation

namespace Stage

variable [Command C] [World W] [WorkMonitor M]

/-- Every tick serves every turtle once. -/
theorem ticks_go_round (stage : Stage C M W) (arrivals : TurtleId → List (Submitter × C))
    (nanos : TurtleId → Nat) :
    ∃ report last, Operation.tickAmid arrivals nanos stage = .ok report last ∧
      stage.GoesRound last report arrivals nanos := by
  obtain ⟨cursor, ended⟩ := Operation.tickAmid_eq arrivals nanos stage
  obtain ⟨members, monitor, retired, left⟩ := Operation.tickRound_fleet_eq arrivals nanos stage
  have time : (Operation.tickRound arrivals nanos stage).stage.fleet.time =
      cappedAdd stage.fleet.time 1 := by rw [left]
  refine ⟨_, _, ended, {
    time
    ascending := stage.fleet.members.keys_pairwise.imp Text.bytes_lt_bytes
    order := stage.fleet.visitOrder_eq
    once := ⟨stage.fleet.visitOrder_nodup, stage.fleet.mem_visitOrder⟩
    visited := fun id member found => ?_
    updated := fun tame => ?_
    animated := fun tame id member found =>
      Operation.advances_tickRound arrivals nanos tame found }⟩
  · obtain ⟨early, late, reaches⟩ := Operation.exists_reaches arrivals nanos found
    exact ⟨early, late, reaches, reaches.foundAfter⟩
  · rw [Operation.updatesIn_tickRound arrivals nanos tame]
    dsimp only
    rw [time]

/-- A crew whose cursor stands at the name of a turtle that is gone. Of the others one plays an
animation, another one has upgrades on both sides, and there are more commands than a tick has time
for. -/
def patrol : Stage TurtleCommand WorkBudget MemoryWorld :=
  crew.run [.register { Sample.scout with turtleId := "dan", pos := ⟨4, 64, 0⟩ },
    .setUpgrade "cid" .left (some (.tool "diamond_pickaxe")),
    .setUpgrade "cid" .right (some (.modem "wireless_modem")), .submit "ada" (.turn .left), busyTick,
    .remove "bob", .submit "cid" .getFuelLevel, .submit "dan" .getFuelLevel]

theorem ticks_go_round_patrol :
    Command.Tame TurtleCommand MemoryWorld ∧
      ∃ report last, Operation.tickAmid (fun _ => []) (fun _ => 1) patrol = .ok report last ∧
        patrol.GoesRound last report (fun _ => []) (fun _ => 1) ∧
        patrol.fleet.cursor = some "bob" ∧ patrol.fleet.turtleIds = ["ada", "cid", "dan"] ∧
        patrol.fleet.visitOrder = ["cid", "dan", "ada"] ∧
        patrol.fleet.visitOrder.flatMap (patrol.fleet.updatesFor 2) =
          [.updated (.tool "diamond_pickaxe") "cid" .left 2,
            .updated (.modem "wireless_modem") "cid" .right 2] ∧
        report.deferred = ["dan"] ∧
        (last.fleet.turtle? "ada").map (·.animation.progress) = some 1 := by
  obtain ⟨report, last, ended, round⟩ := ticks_go_round patrol (fun _ => []) (fun _ => 1)
  have reported : patrol.reported busyTick = [report] := by
    rw [busyTick, Stage.reported, ended]
  have after : patrol.next busyTick = last := next_of_ticked ended
  have deferred : (patrol.reported busyTick).map (·.deferred) = [["dan"]] := by rfl
  rw [reported] at deferred
  refine ⟨TurtleCommand.tame, report, last, ended, round, by rfl, by rfl, by rfl, by rfl,
    by simpa using deferred, ?_⟩
  rw [← after]
  rfl

end Stage

end TurtleFleet
