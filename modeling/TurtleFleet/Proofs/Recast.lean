import TurtleFleet.Fleet.Tick

/-! Recasting: a fleet whose commands are replaced by others. If these have the same names, leave the
same behind and are answered in the same way, nothing that a tick does depends on which of them it
runs. -/

namespace TurtleFleet

variable {C D M W : Type}

/-! ### Recasting what is queued -/

def QueueEntry.recast (f : C → D) (entry : QueueEntry C) : QueueEntry D :=
  { id := entry.id, command := f entry.command }

def CommandQueue.recast (f : C → D) (queue : CommandQueue C) : CommandQueue D :=
  { nextId := queue.nextId, entries := queue.entries.map (·.recast f), isOpen := queue.isOpen }

theorem CommandQueue.recast_submit (f : C → D) (queue : CommandQueue C) (command : C) :
    (queue.recast f).submit (f command) =
      ((queue.submit command).1, (queue.submit command).2.recast f) := by
  cases isOpen : queue.isOpen <;> simp [submit, recast, QueueEntry.recast, isOpen]

def Member.recast (f : C → D) (member : Member C) : Member D :=
  { registration := member.registration, turtle := member.turtle, queue := member.queue.recast f,
    pending := member.pending }

theorem Member.animate_recast (f : C → D) (member : Member C) :
    (member.recast f).animate = (member.animate.1.recast f, member.animate.2) := by
  unfold animate
  dsimp only [recast]
  split
  · split <;> rfl
  · rfl

/-- The submissions of some commands, recast. -/
def recastArrivals (f : C → D) (arrivals : List (Submitter × C)) : List (Submitter × D) :=
  arrivals.map fun arrival => (arrival.1, f arrival.2)

/-! ### Recasting fleets -/

namespace Fleet

variable (f : C → D) (fleet : Fleet C M)

def recast : Fleet D M :=
  { settings := fleet.settings, time := fleet.time
    members := fleet.members.mapValues fun _ member => member.recast f
    catalog := fleet.catalog, monitor := fleet.monitor, cursor := fleet.cursor
    registrations := fleet.registrations
    retired := fleet.retired.map fun entry => (entry.1, entry.2.recast f) }

@[simp] theorem get?_recast (id : TurtleId) :
    (fleet.recast f).members.get? id = (fleet.members.get? id).map (·.recast f) :=
  Keyed.get?_mapValues ..

theorem visitOrder_recast : (fleet.recast f).visitOrder = fleet.visitOrder := by
  have same : (fleet.recast f).turtleIds = fleet.turtleIds := by
    simp [turtleIds, Keyed.keys, recast, Keyed.mapValues]
  rw [visitOrder, visitOrder, same]
  rfl

theorem moversExcept_recast (id : TurtleId) :
    (fleet.recast f).moversExcept id = fleet.moversExcept id := by
  simp only [moversExcept, recast, Keyed.mapValues, List.filter_map, List.map_map]
  rfl

theorem setMember_recast (id : TurtleId) (member : Member C) :
    (fleet.setMember id member).recast f = (fleet.recast f).setMember id (member.recast f) := by
  have members : (fleet.members.insert id member).mapValues (fun _ member => member.recast f) =
      (fleet.members.mapValues fun _ member => member.recast f).insert id (member.recast f) := by
    refine Keyed.ext_get? fun other => ?_
    rw [Keyed.get?_mapValues, Keyed.get?_insert, Keyed.get?_insert, Keyed.get?_mapValues]
    split <;> rfl
  rw [recast, setMember, members]
  rfl

theorem holder?_recast (submitter : Submitter) :
    (fleet.recast f).holder? submitter = (fleet.holder? submitter).map (·.recast f) := by
  rw [holder?, holder?, get?_recast]
  cases fleet.members.get? submitter.turtleId with
  | none => rfl
  | some member =>
    by_cases own : member.registration = submitter.registration <;>
      simp [Option.filter, Member.recast, own]

theorem lookup_recast (retired : List (Nat × CommandQueue C)) (registration : Nat) :
    (retired.map fun entry => (entry.1, entry.2.recast f)).lookup registration =
      (retired.lookup registration).map (·.recast f) := by
  induction retired with
  | nil => rfl
  | cons head rest ih =>
    rw [List.map_cons, Keyed.lookup_cons_eq, Keyed.lookup_cons_eq, ih]
    split <;> rfl

theorem submitVia_recast (submitter : Submitter) (command : C) :
    ((fleet.recast f).submitVia submitter (f command)).2 =
      (fleet.submitVia submitter command).2.recast f := by
  rw [submitVia, holder?_recast]
  rcases held : fleet.holder? submitter with _ | member
  · -- the handle of a turtle that is gone still counts what is submitted to it
    have closed : ((fleet.recast f).retired.lookup submitter.registration).getD { isOpen := false } =
        ((fleet.retired.lookup submitter.registration).getD { isOpen := false }).recast f := by
      rw [recast, lookup_recast]
      cases fleet.retired.lookup submitter.registration <;> rfl
    simp only [submitVia, held, Option.map_none, closed, CommandQueue.recast_submit]
    simp only [recast, List.filter_map, List.map_cons]
    rfl
  · simp only [submitVia, held, Option.map_some]
    rw [setMember_recast, Member.recast, CommandQueue.recast_submit]
    rfl

theorem takeIn_recast (arrivals : List (Submitter × C)) :
    (fleet.recast f).takeIn (recastArrivals f arrivals) = (fleet.takeIn arrivals).recast f := by
  induction arrivals generalizing fleet with
  | nil => rfl
  | cons arrival rest ih =>
    have step : (fleet.recast f).takeIn (recastArrivals f (arrival :: rest)) =
        ((fleet.recast f).submitVia arrival.1 (f arrival.2)).2.takeIn (recastArrivals f rest) := rfl
    rw [step, submitVia_recast, ih]
    rfl

end Fleet

/-! ### Recasting ticks -/

def Stage.recast (f : C → D) (stage : Stage C M W) : Stage D M W :=
  { fleet := stage.fleet.recast f, world := stage.world, signals := stage.signals }

/-- The other commands have the same names, leave the same behind and are answered in the same way. -/
structure Recasts (W : Type) [Command C] [Command D] [World W] (f : C → D) : Prop where
  name : ∀ command, Command.name (f command) = Command.name command
  leaves : ∀ command context (scene : Scene W),
    ((Command.execute (f command) context).outcome scene).2 =
      ((Command.execute command context).outcome scene).2
  succeeds : ∀ command context (scene : Scene W),
    ((Command.execute (f command) context).outcome scene).1.isOk =
      ((Command.execute command context).outcome scene).1.isOk
  answers : ∀ command context (scene : Scene W) id,
    Response.ofResult id ((Command.execute (f command) context).outcome scene).1 =
      Response.ofResult id ((Command.execute command context).outcome scene).1

namespace Round

def recast (f : C → D) (round : Round C M W) : Round D M W :=
  { stage := round.stage.recast f, report := round.report }

theorem takeIn_recast (f : C → D) (round : Round C M W) (arrivals : List (Submitter × C)) :
    (round.recast f).takeIn (recastArrivals f arrivals) = (round.takeIn arrivals).recast f := by
  simp only [takeIn, recast, Stage.recast, Fleet.takeIn_recast]

theorem note_recast (f : C → D) (round : Round C M W) (id : TurtleId) (member : Member C)
    (signals : List Signal) :
    (round.recast f).note id (member.recast f) signals = (round.note id member signals).recast f := by
  simp only [note, recast, Stage.recast, Fleet.setMember_recast]

theorem wake_recast (f : C → D) (round : Round C M W) (id : TurtleId) (member : Member C) :
    (round.recast f).wake id (member.recast f) =
      ((round.wake id member).1.recast f, (round.wake id member).2.recast f) := by
  have updated : (member.recast f).updateUpgrades id round.stage.fleet.time =
      ((member.updateUpgrades id round.stage.fleet.time).1.recast f,
        (member.updateUpgrades id round.stage.fleet.time).2) := rfl
  have time : (round.recast f).stage.fleet.time = round.stage.fleet.time := rfl
  simp only [wake, time, updated, Member.animate_recast, note_recast]
  rfl

variable [Command C] [Command D] [World W] [WorkMonitor M] {f : C → D}

theorem execute_recast (recasts : Recasts W f) (round : Round C M W) (id : TurtleId)
    (member : Member C) (entry : QueueEntry C) (nanos : Nat) :
    (round.recast f).execute id (member.recast f) (entry.recast f) nanos =
      (round.execute id member entry nanos).recast f := by
  have context : (round.recast f).stage.fleet.context = round.stage.fleet.context := rfl
  have movers : (round.recast f).stage.fleet.moversExcept id = round.stage.fleet.moversExcept id :=
    Fleet.moversExcept_recast ..
  have world : (round.recast f).stage.world = round.stage.world := rfl
  simp only [execute, context, movers, world, QueueEntry.recast, Member.recast]
  simp only [recasts.leaves, recasts.answers, recasts.succeeds, recasts.name]
  simp only [recast, Stage.recast, Fleet.setMember_recast]
  rfl

omit [Command C] [Command D] [World W] in
theorem mayWork_recast (round : Round C M W) :
    (round.recast f).mayWork = (round.mayWork.1, round.mayWork.2.recast f) := rfl

theorem dispatch_recast (recasts : Recasts W f) (round : Round C M W) (id : TurtleId)
    (member : Member C) (nanos : Nat) :
    (round.recast f).dispatch id (member.recast f) nanos =
      (round.dispatch id member nanos).recast f := by
  rcases waiting : member.queue.entries with _ | ⟨entry, rest⟩
  · simp [dispatch, CommandQueue.pop?, Member.recast, CommandQueue.recast, waiting]
  · have popped : (member.recast f).queue.pop? = some (entry.recast f,
        ({ member.queue with entries := rest } : CommandQueue C).recast f) := by
      simp [CommandQueue.pop?, Member.recast, CommandQueue.recast, waiting]
    have poppedFirst : member.queue.pop? = some (entry, { member.queue with entries := rest }) := by
      simp [CommandQueue.pop?, waiting]
    simp only [dispatch, popped, poppedFirst, mayWork_recast]
    rcases asked : round.mayWork with ⟨_ | _, watched⟩
    · rfl
    · exact execute_recast recasts watched id
        { member with queue := { member.queue with entries := rest } } entry nanos

theorem visit_recast (recasts : Recasts W f) (round : Round C M W) (id : TurtleId) (nanos : Nat) :
    (round.recast f).visit id nanos = (round.visit id nanos).recast f := by
  have members : (round.recast f).stage.fleet.members.get? id =
      (round.stage.fleet.members.get? id).map (·.recast f) := Fleet.get?_recast ..
  rcases found : round.stage.fleet.members.get? id with _ | member
  · simp only [visit, members, found, Option.map_none]
  · simp only [visit, members, found, Option.map_some, wake_recast]
    have turtle : ((round.wake id member).1.recast f).turtle = (round.wake id member).1.turtle := rfl
    rw [turtle]
    split
    · rfl
    · exact dispatch_recast recasts ..

theorem turns_recast (recasts : Recasts W f) (arrivals : TurtleId → List (Submitter × C))
    (nanos : TurtleId → Nat) (round : Round C M W) (ids : List TurtleId) :
    ids.foldl (turn (fun id => recastArrivals f (arrivals id)) nanos) (round.recast f) =
      (ids.foldl (turn arrivals nanos) round).recast f := by
  induction ids generalizing round with
  | nil => rfl
  | cons id rest ih =>
    rw [List.foldl_cons, List.foldl_cons, ← ih, turn, takeIn_recast, visit_recast recasts]
    rfl

end Round

/-- A tick reports the same, and leaves the same world, the same turtles and the same signals behind. -/
theorem Operation.tickAmid_recast [Command C] [Command D] [World W] [WorkMonitor M] {f : C → D}
    (recasts : Recasts W f) (arrivals : TurtleId → List (Submitter × C)) (nanos : TurtleId → Nat)
    (stage : Stage C M W) {report : TickReport} {after : Stage C M W}
    (ticked : tickAmid arrivals nanos stage = .ok report after) :
    tickAmid (fun id => recastArrivals f (arrivals id)) nanos (stage.recast f) =
      .ok report (after.recast f) := by
  have order : (beginTick (stage.fleet.recast f)).visitOrder = (beginTick stage.fleet).visitOrder :=
    (beginTick stage.fleet).visitOrder_recast f
  let start : Round C M W :=
    { stage := { stage with fleet := beginTick stage.fleet }
      report := { time := (beginTick stage.fleet).time } }
  have turned : (beginTick stage.fleet).visitOrder.foldl
      (Round.turn (fun id => recastArrivals f (arrivals id)) nanos)
      { stage := { stage.recast f with fleet := beginTick (stage.fleet.recast f) }
        report := { time := (beginTick (stage.fleet.recast f)).time } } =
      ((beginTick stage.fleet).visitOrder.foldl (Round.turn arrivals nanos) start).recast f :=
    Round.turns_recast recasts arrivals nanos start _
  cases ticked
  unfold tickAmid
  dsimp only
  rw [show (stage.recast f).fleet = stage.fleet.recast f from rfl, order, turned]
  rfl

end TurtleFleet
