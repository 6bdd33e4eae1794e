import Mathlib.Data.List.Induction
import TurtleFleet.Proofs.Visit

/-! Turns: in every tick each registered turtle has its turn once, wherever it stands in the order of
the visits. To the turtle a tick is one visit, before and after which submissions come in. -/

namespace TurtleFleet

variable {C M W : Type}

theorem rotateTo_perm (cursor : Option TurtleId) (ids : List TurtleId) :
    (rotateTo cursor ids).Perm ids := by
  cases cursor with
  | none => exact .refl ids
  | some cursor =>
    have whole := List.takeWhile_append_dropWhile (p := (· < cursor)) (l := ids)
    have turned : (rotateTo (some cursor) ids).Perm
        (ids.takeWhile (· < cursor) ++ ids.dropWhile (· < cursor)) := List.perm_append_comm
    rwa [whole] at turned

namespace Fleet

theorem visitOrder_nodup (fleet : Fleet C M) : fleet.visitOrder.Nodup :=
  (rotateTo_perm _ _).nodup_iff.mpr fleet.members.keys_nodup

theorem mem_visitOrder (fleet : Fleet C M) (id : TurtleId) :
    id ∈ fleet.visitOrder ↔ (fleet.members.get? id).isSome :=
  (rotateTo_perm _ _).mem_iff.trans (fleet.members.mem_keys_iff id)

theorem not_mem_of_visitOrder {fleet : Fleet C M} {first second : List TurtleId} {id : TurtleId}
    (split : fleet.visitOrder = first ++ id :: second) : id ∉ first ∧ id ∉ second := by
  have distinct := fleet.visitOrder_nodup
  rw [split, List.nodup_append] at distinct
  obtain ⟨_, later, disjoint⟩ := distinct
  exact ⟨fun earlier => disjoint id earlier id List.mem_cons_self rfl, (List.nodup_cons.mp later).1⟩

end Fleet

namespace Member

theorem Audible.takeIn {member : Member C} (audible : member.Audible) (commands : List C) :
    (member.takeIn commands).Audible := by
  induction commands generalizing member with
  | nil => exact audible
  | cons command rest ih =>
    rw [takeIn_cons]
    refine ih ⟨audible.held, fun entry queued => ?_, ?_⟩
    · simp only [Member.takeIn, List.foldl_cons, List.foldl_nil, CommandQueue.submit] at queued
      split at queued
      · rcases List.mem_append.mp queued with old | new
        · exact audible.queued entry old
        · rw [List.mem_singleton.mp new]
          exact audible.next
      · exact audible.queued entry queued
    · simp only [Member.takeIn, List.foldl_cons, List.foldl_nil, CommandQueue.submit, word64]
      omega

end Member

namespace Round

theorem takeIn_stage (round : Round C M W) (arrivals : List (Submitter × C)) :
    (round.takeIn arrivals).stage.world = round.stage.world ∧
      (round.takeIn arrivals).stage.signals = round.stage.signals ∧
      (round.takeIn arrivals).report = round.report ∧
      (round.takeIn arrivals).stage.fleet.context = round.stage.fleet.context := by
  obtain ⟨members, retired, left⟩ := round.stage.fleet.takeIn_eq arrivals
  refine ⟨rfl, rfl, rfl, ?_⟩
  simp only [takeIn, left]
  rfl

variable [Command C] [World W] [WorkMonitor M]
variable (arrivals : TurtleId → List (Submitter × C)) (nanos : TurtleId → Nat)

theorem turns_fleet_eq (round : Round C M W) (ids : List TurtleId) :
    ∃ members monitor retired, (ids.foldl (turn arrivals nanos) round).stage.fleet =
      { round.stage.fleet with members, monitor, retired } := by
  induction ids generalizing round with
  | nil => exact ⟨_, _, _, rfl⟩
  | cons id rest ih =>
    obtain ⟨_, retired, taken⟩ := round.stage.fleet.takeIn_eq (arrivals id)
    obtain ⟨members, monitor, visited⟩ := (round.takeIn (arrivals id)).visit_fleet_eq id (nanos id)
    obtain ⟨members, monitor, retired, later⟩ := ih (turn arrivals nanos round id)
    refine ⟨members, monitor, retired, ?_⟩
    rw [List.foldl_cons, later, turn, visited]
    simp only [takeIn, taken]

theorem turns_context (round : Round C M W) (ids : List TurtleId) :
    (ids.foldl (turn arrivals nanos) round).stage.fleet.context = round.stage.fleet.context := by
  obtain ⟨members, monitor, retired, left⟩ := turns_fleet_eq arrivals nanos round ids
  rw [left]
  rfl

/-- The turns of other turtles only bring in submissions. -/
theorem turns_of_not_mem (round : Round C M W) {ids : List TurtleId} {other : TurtleId}
    (apart : other ∉ ids) :
    (ids.foldl (turn arrivals nanos) round).stage.fleet.members.get? other =
        (round.stage.fleet.members.get? other).map (fun member =>
          member.takeIn (addressed (member.handle other) (ids.flatMap arrivals))) ∧
      heard other (ids.foldl (turn arrivals nanos) round).stage.signals =
        heard other round.stage.signals ∧
      (ids.foldl (turn arrivals nanos) round).report.startedFor other =
        round.report.startedFor other := by
  induction ids generalizing round with
  | nil =>
    refine ⟨?_, rfl, rfl⟩
    cases found : round.stage.fleet.members.get? other <;> simp [found]
  | cons id rest ih =>
    have different : other ≠ id := fun same => apart (by simp [same])
    have apartRest : other ∉ rest := fun member => apart (List.mem_cons_of_mem _ member)
    obtain ⟨found, silent, still⟩ :=
      (round.takeIn (arrivals id)).visit_of_ne different (nanos id)
    obtain ⟨foundLater, silentLater, stillLater⟩ := ih (turn arrivals nanos round id) apartRest
    obtain ⟨_, signals, report, _⟩ := takeIn_stage round (arrivals id)
    refine ⟨?_, ?_, ?_⟩
    · rw [List.foldl_cons, foundLater, turn, found, takeIn, Fleet.get?_takeIn, Option.map_map]
      congr 1
      funext member
      rw [Function.comp_apply, Member.handle_takeIn, ← Member.takeIn_append, ← addressed_append,
        List.flatMap_cons]
    · rw [List.foldl_cons, silentLater, turn, silent, signals]
    · rw [List.foldl_cons, stillLater, turn, still, report]

theorem Serves.registration {context : Context} {movers : List TurtleId} {id : TurtleId}
    {member served : Member C} {world left : W} {answers : List Response}
    {started : List ExecutedCommand}
    (serves : Serves context movers id member world answers started served left) :
    served.registration = member.registration := by
  cases serves with
  | waits => exact Member.woken_registration ..
  | starts still waiting ran => rfl

theorem visit_registration {round : Round C M W} {id : TurtleId} {member : Member C}
    (found : round.stage.fleet.members.get? id = some member) (nanos : Nat) :
    ∃ served, (round.visit id nanos).stage.fleet.members.get? id = some served ∧
      served.registration = member.registration := by
  have rouses := rouses_visit found nanos
  generalize round.visit id nanos = left at rouses ⊢
  cases rouses with
  | waits monitor deferred =>
    exact ⟨_, Keyed.get?_insert_self .., member.woken_registration id _⟩
  | works monitor still waiting =>
    exact ⟨_, Keyed.get?_insert_self .., member.woken_registration id _⟩

end Round

/-! ### What lasts throughout a tick -/

section

variable [Command C] [World W] [WorkMonitor M]

/-- A property of stages that nothing takes away which happens during a tick. -/
structure Stage.LastsTicks (holds : Stage C M W → Prop) : Prop where
  paced : ∀ {stage : Stage C M W} (time : Nat) (monitor : M) (cursor : Option TurtleId),
    holds stage → holds { stage with fleet := { stage.fleet with time, monitor, cursor } }
  takeIn : ∀ {stage : Stage C M W} (arrivals : List (Submitter × C)),
    holds stage → holds { stage with fleet := stage.fleet.takeIn arrivals }
  visit : ∀ {round : Round C M W} (id : TurtleId) (nanos : Nat),
    holds round.stage → holds (round.visit id nanos).stage

theorem Stage.LastsTicks.turns {holds : Stage C M W → Prop} (lasts : LastsTicks holds)
    (arrivals : TurtleId → List (Submitter × C)) (nanos : TurtleId → Nat) {round : Round C M W}
    (fit : holds round.stage) (ids : List TurtleId) :
    holds (ids.foldl (Round.turn arrivals nanos) round).stage := by
  induction ids generalizing round with
  | nil => exact fit
  | cons id rest ih =>
    have taken : holds (round.takeIn (arrivals id)).stage := lasts.takeIn (arrivals id) fit
    exact ih (lasts.visit id (nanos id) taken)

end

namespace Operation

variable [Command C] [World W] [WorkMonitor M]
variable (arrivals : TurtleId → List (Submitter × C)) (nanos : TurtleId → Nat)

omit [Command C] [World W] in
/-- The round of a tick before its visits. -/
def opened (stage : Stage C M W) : Round C M W :=
  { stage := { stage with fleet := beginTick stage.fleet }
    report := { time := cappedAdd stage.fleet.time 1 } }

/-- The round of a tick after all its visits. -/
def tickRound (stage : Stage C M W) : Round C M W :=
  stage.fleet.visitOrder.foldl (Round.turn arrivals nanos) (opened stage)

/-- A registered turtle has its turn between those of others. -/
theorem tickRound_split {stage : Stage C M W} {id : TurtleId}
    (registered : (stage.fleet.members.get? id).isSome) :
    ∃ first second, stage.fleet.visitOrder = first ++ id :: second ∧ id ∉ first ∧ id ∉ second ∧
      tickRound arrivals nanos stage = second.foldl (Round.turn arrivals nanos)
        (Round.turn arrivals nanos (first.foldl (Round.turn arrivals nanos) (opened stage)) id) := by
  obtain ⟨first, second, split⟩ :=
    List.append_of_mem ((stage.fleet.mem_visitOrder id).mpr registered)
  obtain ⟨notEarlier, notLater⟩ := Fleet.not_mem_of_visitOrder split
  exact ⟨first, second, split, notEarlier, notLater,
    by rw [tickRound, split, List.foldl_append, List.foldl_cons]⟩

/-- A tick always comes to its end. -/
theorem tickAmid_eq (stage : Stage C M W) :
    ∃ cursor, tickAmid arrivals nanos stage = .ok (tickRound arrivals nanos stage).report
      { (tickRound arrivals nanos stage).stage with
        fleet := { (tickRound arrivals nanos stage).stage.fleet with cursor } } :=
  ⟨_, rfl⟩

theorem tickRound_fleet_eq (stage : Stage C M W) :
    ∃ members monitor retired, (tickRound arrivals nanos stage).stage.fleet =
      { stage.fleet with time := cappedAdd stage.fleet.time 1, members, monitor, retired } :=
  Round.turns_fleet_eq arrivals nanos _ _

theorem tickRound_missing {stage : Stage C M W} {id : TurtleId}
    (missing : stage.fleet.members.get? id = none) :
    (tickRound arrivals nanos stage).stage.fleet.members.get? id = none ∧
      heard id (tickRound arrivals nanos stage).stage.signals = heard id stage.signals ∧
      (tickRound arrivals nanos stage).report.startedFor id = [] := by
  have apart : id ∉ stage.fleet.visitOrder := by simp [Fleet.mem_visitOrder, missing]
  obtain ⟨found, silent, still⟩ := Round.turns_of_not_mem arrivals nanos (opened stage) apart
  refine ⟨?_, silent, still⟩
  have begun : (opened stage).stage.fleet.members.get? id = none := missing
  rw [tickRound, found, begun]
  rfl

/-- The round in which a tick comes to visit a turtle. -/
def reached (stage : Stage C M W) (id : TurtleId) : Round C M W :=
  ((stage.fleet.visitOrder.takeWhile (· ≠ id)).foldl (Round.turn arrivals nanos)
    (opened stage)).takeIn (arrivals id)

theorem reached_of_split {stage : Stage C M W} {id : TurtleId} {first second : List TurtleId}
    (split : stage.fleet.visitOrder = first ++ id :: second) :
    reached arrivals nanos stage id =
      (first.foldl (Round.turn arrivals nanos) (opened stage)).takeIn (arrivals id) := by
  have others : ∀ other ∈ first, decide (other ≠ id) = true := by
    intro other listed
    have apart : other ≠ id := fun same => (Fleet.not_mem_of_visitOrder split).1 (same ▸ listed)
    exact decide_eq_true apart
  rw [reached, split, List.takeWhile_append_of_pos others, List.takeWhile_cons_of_neg (by simp),
    List.append_nil]

/-- A tick is built up visit by visit. -/
theorem tickRound_of_visits {stage : Stage C M W} (holds : List TurtleId → Round C M W → Prop)
    (begun : holds [] (opened stage))
    (visited : ∀ first id round, id ∈ stage.fleet.visitOrder → holds first round →
      round.takeIn (arrivals id) = reached arrivals nanos stage id →
        holds (first ++ [id]) ((reached arrivals nanos stage id).visit id (nanos id))) :
    holds stage.fleet.visitOrder (tickRound arrivals nanos stage) := by
  suffices turned : ∀ first second, stage.fleet.visitOrder = first ++ second →
      holds first (first.foldl (Round.turn arrivals nanos) (opened stage)) from
    turned stage.fleet.visitOrder [] (List.append_nil _).symm
  intro first
  induction first using List.reverseRecOn with
  | nil => exact fun _ _ => begun
  | append_singleton first id ih =>
    intro second split
    rw [List.append_assoc] at split
    have ready := reached_of_split arrivals nanos split
    have left := visited first id _ (split ▸ by simp) (ih _ split) ready.symm
    rw [ready] at left
    rwa [List.foldl_append]

/-- What lasts throughout a tick holds when a turtle is visited. -/
theorem lasts_reached {holds : Stage C M W → Prop} (lasts : Stage.LastsTicks holds)
    {stage : Stage C M W} (fit : holds stage) (id : TurtleId) :
    holds (reached arrivals nanos stage id).stage := by
  have begun : holds (opened stage).stage :=
    lasts.paced (cappedAdd stage.fleet.time 1) (WorkMonitor.beginTick stage.fleet.monitor)
      stage.fleet.cursor fit
  exact lasts.takeIn (arrivals id) (lasts.turns arrivals nanos begun _)

/-- What is known of the visit of a turtle, before and after which submissions come in. -/
structure Reaches (stage : Stage C M W) (id : TurtleId) (member : Member C) (early late : List C) :
    Prop where
  split : early ++ late = addressed (member.handle id) (stage.fleet.visitOrder.flatMap arrivals)
  context : (reached arrivals nanos stage id).stage.fleet.context =
    { stage.fleet.context with time := cappedAdd stage.fleet.time 1 }
  found : (reached arrivals nanos stage id).stage.fleet.members.get? id =
    some (member.takeIn early)
  unheard : heard id (reached arrivals nanos stage id).stage.signals = heard id stage.signals
  unstarted : (reached arrivals nanos stage id).report.startedFor id = []
  /-- What holds at the start of the tick and is kept by its turns holds by then. -/
  lasts : ∀ holds : Stage C M W → Prop, Stage.LastsTicks holds → holds stage →
    holds (reached arrivals nanos stage id).stage
  foundAfter : (tickRound arrivals nanos stage).stage.fleet.members.get? id =
    (((reached arrivals nanos stage id).visit id (nanos id)).stage.fleet.members.get? id).map
      (·.takeIn late)
  heardAfter : heard id (tickRound arrivals nanos stage).stage.signals =
    heard id ((reached arrivals nanos stage id).visit id (nanos id)).stage.signals
  startedAfter : (tickRound arrivals nanos stage).report.startedFor id =
    ((reached arrivals nanos stage id).visit id (nanos id)).report.startedFor id

/-- A turtle is visited between the turtles before it and those after it. -/
theorem reaches_of_split {stage : Stage C M W} {id : TurtleId} {member : Member C}
    (found : stage.fleet.members.get? id = some member) {first second : List TurtleId}
    (split : stage.fleet.visitOrder = first ++ id :: second) :
    Reaches arrivals nanos stage id member
      (addressed (member.handle id) (first.flatMap arrivals ++ arrivals id))
      (addressed (member.handle id) (second.flatMap arrivals)) := by
  obtain ⟨notEarlier, notLater⟩ := Fleet.not_mem_of_visitOrder split
  have whole : tickRound arrivals nanos stage = second.foldl (Round.turn arrivals nanos)
      (Round.turn arrivals nanos (first.foldl (Round.turn arrivals nanos) (opened stage)) id) := by
    rw [tickRound, split, List.foldl_append, List.foldl_cons]
  let before := first.foldl (Round.turn arrivals nanos) (opened stage)
  have ready : reached arrivals nanos stage id = before.takeIn (arrivals id) :=
    reached_of_split arrivals nanos split
  obtain ⟨foundBefore, silentBefore, stillBefore⟩ :=
    Round.turns_of_not_mem arrivals nanos (opened stage) notEarlier
  obtain ⟨_, signals, report, context⟩ := before.takeIn_stage (arrivals id)
  have foundReady : (reached arrivals nanos stage id).stage.fleet.members.get? id =
      some (member.takeIn
        (addressed (member.handle id) (first.flatMap arrivals ++ arrivals id))) := by
    have foundBegun : (opened stage).stage.fleet.members.get? id = some member := found
    rw [ready]
    show (before.stage.fleet.takeIn (arrivals id)).members.get? id = _
    rw [Fleet.get?_takeIn, foundBefore, foundBegun, addressed_append, Member.takeIn_append]
    rfl
  obtain ⟨served, foundServed, registration⟩ := Round.visit_registration foundReady (nanos id)
  obtain ⟨foundLast, silentLast, stillLast⟩ := Round.turns_of_not_mem arrivals nanos
    ((reached arrivals nanos stage id).visit id (nanos id)) notLater
  have handle : served.handle id = member.handle id := by
    rw [Member.handle, registration]
    rfl
  have turned : tickRound arrivals nanos stage = second.foldl (Round.turn arrivals nanos)
      ((reached arrivals nanos stage id).visit id (nanos id)) := by
    rw [whole, ready]
    rfl
  refine { split := ?_, context := ?_, found := foundReady, unheard := ?_, unstarted := ?_,
           lasts := ?_, foundAfter := ?_, heardAfter := ?_, startedAfter := ?_ }
  · rw [← addressed_append, split]
    simp
  · rw [ready]
    exact context.trans (Round.turns_context arrivals nanos (opened stage) first)
  · rw [ready, signals, silentBefore]
    rfl
  · rw [ready, report, stillBefore]
    rfl
  · exact fun holds lasts fit => lasts_reached arrivals nanos lasts fit id
  · rw [turned, foundLast, foundServed, Option.map_some, Option.map_some, handle]
  · rw [turned, silentLast]
  · rw [turned, stillLast]

/-- Every registered turtle is visited once. -/
theorem exists_reaches {stage : Stage C M W} {id : TurtleId} {member : Member C}
    (found : stage.fleet.members.get? id = some member) :
    ∃ early late, Reaches arrivals nanos stage id member early late := by
  obtain ⟨first, second, split⟩ :=
    List.append_of_mem ((stage.fleet.mem_visitOrder id).mpr (Option.isSome_of_eq_some found))
  exact ⟨_, _, reaches_of_split arrivals nanos found split⟩

/-- To a registered turtle a tick is one visit, before and after which submissions come in. -/
theorem tickRound_self {stage : Stage C M W} {id : TurtleId} {member : Member C}
    (found : stage.fleet.members.get? id = some member) (audible : member.Audible) :
    ∃ early late movers answers started served, ∃ world left : W,
      early ++ late =
        addressed (member.handle id) (stage.fleet.visitOrder.flatMap arrivals) ∧
      Round.Serves { stage.fleet.context with time := cappedAdd stage.fleet.time 1 } movers id
        (member.takeIn early) world answers started served left ∧
      (tickRound arrivals nanos stage).stage.fleet.members.get? id = some (served.takeIn late) ∧
      heard id (tickRound arrivals nanos stage).stage.signals = heard id stage.signals ++ answers ∧
      (tickRound arrivals nanos stage).report.startedFor id = started := by
  obtain ⟨early, late, reaches⟩ := exists_reaches arrivals nanos found
  obtain ⟨answers, started, served, serves, foundAfter, heardAfter, startedAfter⟩ :=
    Round.visit_self reaches.found (audible.takeIn _) (nanos id)
  refine ⟨early, late, _, answers, started, served, _, _, reaches.split,
    reaches.context ▸ serves, ?_, ?_, ?_⟩
  · rw [reaches.foundAfter, foundAfter]
    rfl
  · rw [reaches.heardAfter, heardAfter, reaches.unheard]
  · rw [reaches.startedAfter, startedAfter, reaches.unstarted]
    rfl

end Operation

end TurtleFleet
