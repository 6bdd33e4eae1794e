import TurtleFleet.Fleet.Tick
import TurtleFleet.Proofs.Notices
import TurtleFleet.Proofs.Submission

/-! The course of a fleet: whatever is done with it from outside, in any order. A deed that breaks
off outside of a command ends the course, so that no stage comes after it. The main statement says
what every single deed does; all that is known of a whole course is derived from it. -/

namespace TurtleFleet

variable {C M W : Type}

theorem Fleet.new_eq {settings : Settings} {monitor : M} {fleet : Fleet C M}
    (made : Fleet.new settings monitor = .ok fleet) :
    ∃ sanitized, settings.sanitized = .ok sanitized ∧
      fleet = { settings := sanitized, monitor } := by
  cases sane : settings.sanitized with
  | error fault => simp [Fleet.new, sane, bind, Except.bind] at made
  | ok sanitized =>
    refine ⟨sanitized, rfl, ?_⟩
    simpa [Fleet.new, sane, bind, Except.bind, pure, Except.pure] using made.symm

/-- The stage that an operation leaves behind, however it ends. -/
def Stage.after {α : Type} (stage : Stage C M W) (operation : Operation C M W α) : Stage C M W :=
  match operation stage with
  | .ok _ stage => stage
  | .error _ stage => stage

/-- The operation breaks off, which no operation does unless a call to the world does. -/
def Stage.Breaks {α : Type} (stage : Stage C M W) (operation : Operation C M W α) : Prop :=
  ∃ fault left, operation stage = .error (.broken fault) left

/-- One thing that is done with a fleet. -/
inductive Deed (C W : Type) where
  | register (spec : TurtleSpec)
  | submit (id : TurtleId) (command : C)
  | submitVia (submitter : Submitter) (command : C)
  /-- Other submissions may come in while the tick is under way. -/
  | tick (arrivals : TurtleId → List (Submitter × C)) (nanos : TurtleId → Nat)
  | setUpgrade (id : TurtleId) (side : Side) (upgrade : Option Upgrade)
  | attach (id : TurtleId)
  | detach (id : TurtleId)
  | remove (id : TurtleId)
  /-- The world changes behind the back of the fleet. -/
  | reshape (change : W → W)

def Deed.isTick : Deed C W → Bool
  | tick .. => true
  | _ => false

def Deed.isRegistration : Deed C W → Bool
  | register .. => true
  | _ => false

def Deed.isSubmission : Deed C W → Bool
  | submit .. => true
  | submitVia .. => true
  | _ => false

def Deed.submissions (deed : Deed C W) (fleet : Fleet C M) : List (Submitter × C) :=
  match deed with
  | submit id command => ((fleet.members.get? id).map fun member => (member.handle id, command)).toList
  | submitVia submitter command => [(submitter, command)]
  | tick arrivals _ => fleet.visitOrder.flatMap arrivals
  | _ => []

namespace Operation

/-- Submits a command through a handle. -/
def submitVia (submitter : Submitter) (command : C) : Operation C M W Unit := do
  setFleet ((← fleet).submitVia submitter command).2

/-- Submits a command for a turtle; an unknown turtle is refused. -/
def submit (id : TurtleId) (command : C) : Operation C M W Unit := do
  match (← fleet).submit id command with
  | .ok (_, fleet) => setFleet fleet
  | .error error => refuse error

end Operation

/-! ### Parts of operations -/

section

variable {α : Type}

namespace Operation

theorem member_of_get? {stage : Stage C M W} {id : TurtleId} {member : Member C}
    (found : stage.fleet.members.get? id = some member) :
    Operation.member id stage = .ok member stage := by
  simp only [Operation.member, fleet, bind, EStateM.bind, found, pure, EStateM.pure]

theorem member_of_missing {stage : Stage C M W} {id : TurtleId}
    (missing : stage.fleet.members.get? id = none) :
    Operation.member id stage = .error (.refused (.unknownTurtle id)) stage := by
  simp only [Operation.member, fleet, bind, EStateM.bind, missing]
  rfl

end Operation

/-- Only effects were seen, and nothing was heard on the stream of a turtle. -/
def Quiet (signals : List Signal) : Prop := ∀ signal ∈ signals, ∃ effect, signal = .effect effect

theorem quiet_map (effect : α → Effect) (values : List α) :
    Quiet (values.map fun value => .effect (effect value)) := by
  intro signal member
  obtain ⟨value, _, same⟩ := List.mem_map.mp member
  exact ⟨effect value, same.symm⟩

theorem Quiet.append {first second : List Signal} (quiet : Quiet first) (later : Quiet second) :
    Quiet (first ++ second) := fun signal member =>
  (List.mem_append.mp member).elim (quiet signal) (later signal)

variable [World W]

/-- The world answers a call that is made on behalf of a turtle. -/
def Stage.Answers (stage : Stage C M W) (id : TurtleId) (call : WorldCall) (reply : call.Reply)
    (world : W) : Prop :=
  World.answer call (stage.fleet.moversExcept id) stage.world = (.ok reply, world)

theorem Operation.ask_of_answers {stage : Stage C M W} {id : TurtleId} {call : WorldCall}
    {reply : call.Reply} {world : W} (answers : stage.Answers id call reply world) :
    ∃ news, Quiet news ∧ noticesIn news = [] ∧ Operation.ask id call stage =
      .ok reply { stage with world, signals := stage.signals ++ news } := by
  refine ⟨[.effect (.world call (if call.fulfilled reply then .fulfilled else .refused)
    (stage.fleet.moversExcept id))], ?_, rfl, ?_⟩
  · intro signal member
    exact ⟨_, List.mem_singleton.mp member⟩
  · simp only [Operation.ask, show World.answer call _ stage.world = _ from answers]

theorem Operation.ask_cases (stage : Stage C M W) (id : TurtleId) (call : WorldCall) :
    (∃ reply world, stage.Answers id call reply world) ∨
      ∃ fault left, Operation.ask id call stage = .error (.broken fault) left := by
  rcases answered : World.answer call (stage.fleet.moversExcept id) stage.world with
    ⟨fault | reply, world⟩
  · exact .inr ⟨fault, _, by simp only [Operation.ask, answered]; rfl⟩
  · exact .inl ⟨reply, world, answered⟩

/-- The ways in which a registration can end. -/
inductive Operation.Registers (stage : Stage C M W) (spec : TurtleSpec) :
    EStateM.Result Failure (Stage C M W) Submitter → Prop where
  | duplicate (known : (stage.fleet.members.get? spec.turtleId).isSome) :
      Registers stage spec (.error (.refused (.duplicateTurtle spec.turtleId)) stage)
  /-- The world makes no entity. -/
  | unspawned {cause : WorldError} {world : W} {news : List Signal}
      (absent : stage.fleet.members.get? spec.turtleId = none)
      (spawned : stage.Answers spec.turtleId (.spawn spec.world spec.pos
        (Turtle.unplaced spec stage.fleet.settings).snapshot) (.error cause) world)
      (quiet : Quiet news) (untold : noticesIn news = []) :
      Registers stage spec (.error (.refused (.spawnFailed spec.turtleId cause))
        { stage with world, signals := stage.signals ++ news })
  /-- The world makes an entity that is no turtle, which is removed again. -/
  | discarded {entity : EntityRef} {between world : W} {noted news : List Signal}
      (absent : stage.fleet.members.get? spec.turtleId = none)
      (spawned : stage.Answers spec.turtleId (.spawn spec.world spec.pos
        (Turtle.unplaced spec stage.fleet.settings).snapshot) (.ok entity) between)
      (foreign : entity.kind ≠ .turtle)
      (removed : Stage.Answers { stage with world := between, signals := stage.signals ++ noted }
        spec.turtleId (.remove entity.world entity.pos) () world)
      (quiet : Quiet news) (untold : noticesIn news = []) :
      Registers stage spec
        (.error (.refused (.spawnFailed spec.turtleId
          (.spawnRejected s!"incompatible entity kind {entity.kind.describe}")))
          { stage with world, signals := stage.signals ++ news })
  | enrolled {entity : EntityRef} {world : W} {news : List Signal}
      (absent : stage.fleet.members.get? spec.turtleId = none)
      (spawned : stage.Answers spec.turtleId (.spawn spec.world spec.pos
        (Turtle.unplaced spec stage.fleet.settings).snapshot) (.ok entity) world)
      (kind : entity.kind = .turtle) (quiet : Quiet news) (untold : noticesIn news = []) :
      Registers stage spec
        (.ok { turtleId := spec.turtleId, registration := stage.fleet.registrations }
          { fleet := (stage.fleet.enroll { Turtle.unplaced spec stage.fleet.settings with entity }).2
            world
            signals := stage.signals ++ news })
  /-- A call to the world breaks off. -/
  | broken (fault : Fault) (left : Stage C M W) :
      Registers stage spec (.error (.broken fault) left)

theorem Operation.registers_register (stage : Stage C M W) (spec : TurtleSpec) :
    Registers stage spec (register spec stage) := by
  by_cases known : stage.fleet.members.contains spec.turtleId = true
  · have ended : register spec stage =
        .error (.refused (.duplicateTurtle spec.turtleId)) stage := by
      simp only [register, fleet, bind, EStateM.bind, known, ↓reduceIte]
      rfl
    rw [ended]
    exact .duplicate known
  have absent : stage.fleet.members.get? spec.turtleId = none := by
    simpa [Keyed.contains] using known
  rcases ask_cases stage spec.turtleId (.spawn spec.world spec.pos
      (Turtle.unplaced spec stage.fleet.settings).snapshot) with
    ⟨cause | entity, world, spawned⟩ | ⟨fault, left, broken⟩
  · obtain ⟨news, quiet, untold, asked⟩ := ask_of_answers spawned
    have ended : register spec stage = .error (.refused (.spawnFailed spec.turtleId cause))
        { stage with world, signals := stage.signals ++ news } := by
      simp only [register, fleet, bind, EStateM.bind, known, Bool.false_eq_true, ↓reduceIte, asked]
      rfl
    rw [ended]
    exact .unspawned absent spawned quiet untold
  · obtain ⟨news, quiet, untold, asked⟩ := ask_of_answers spawned
    by_cases kind : entity.kind = .turtle
    · have ended : register spec stage =
          .ok { turtleId := spec.turtleId, registration := stage.fleet.registrations }
            { fleet := (stage.fleet.enroll
                { Turtle.unplaced spec stage.fleet.settings with entity }).2
              world, signals := stage.signals ++ news } := by
        simp only [register, fleet, bind, EStateM.bind, known, Bool.false_eq_true, ↓reduceIte,
          asked, ne_eq, kind, not_true_eq_false]
        rfl
      rw [ended]
      exact .enrolled absent spawned kind quiet untold
    · rcases ask_cases { stage with world, signals := stage.signals ++ news }
          spec.turtleId (.remove entity.world entity.pos) with
        ⟨_, gone, removed⟩ | ⟨fault, left, broken⟩
      · obtain ⟨later, quietLater, untoldLater, askedLater⟩ := ask_of_answers removed
        have ended : register spec stage =
            .error (.refused (.spawnFailed spec.turtleId
              (.spawnRejected s!"incompatible entity kind {entity.kind.describe}")))
              { stage with world := gone, signals := stage.signals ++ (news ++ later) } := by
          simp only [register, fleet, bind, EStateM.bind, known, Bool.false_eq_true, ↓reduceIte,
            asked, ne_eq, kind, not_false_eq_true, askedLater, List.append_assoc]
          rfl
        rw [ended]
        exact .discarded absent spawned kind removed (quiet.append quietLater)
          (by rw [noticesIn_append, untold, untoldLater]; rfl)
      · have ended : register spec stage = .error (.broken fault) left := by
          simp only [register, fleet, bind, EStateM.bind, known, Bool.false_eq_true, ↓reduceIte,
            asked, ne_eq, kind, not_false_eq_true, broken]
        rw [ended]
        exact .broken fault left
  · have ended : register spec stage = .error (.broken fault) left := by
      simp only [register, fleet, bind, EStateM.bind, known, Bool.false_eq_true, ↓reduceIte, broken]
    rw [ended]
    exact .broken fault left

end

variable [Command C] [World W] [WorkMonitor M]

def Deed.perform : Deed C W → Operation C M W Unit
  | register spec => do let _ ← Operation.register spec
  | submit id command => Operation.submit id command
  | submitVia submitter command => Operation.submitVia submitter command
  | tick arrivals nanos => do let _ ← Operation.tickAmid arrivals nanos
  | setUpgrade id side upgrade => do let _ ← Operation.setUpgrade id side upgrade
  | attach id => Operation.attach id
  | detach id => Operation.detach id
  | remove id => do let _ ← Operation.remove id
  | reshape change => fun stage => .ok () { stage with world := change stage.world }

namespace Stage

/-- The stage after a deed. -/
def next (stage : Stage C M W) (deed : Deed C W) : Stage C M W := stage.after deed.perform

theorem next_register (stage : Stage C M W) (spec : TurtleSpec) :
    stage.next (.register spec) = stage.after (Operation.register spec) := by
  simp only [next, after, Deed.perform, bind, EStateM.bind]
  cases Operation.register spec stage <;> rfl

/-- The deeds lead from one stage to another, and none of them breaks off. -/
inductive Leads : Stage C M W → List (Deed C W) → Stage C M W → Prop where
  | rest (stage : Stage C M W) : Leads stage [] stage
  | step {stage last : Stage C M W} {deed : Deed C W} {deeds : List (Deed C W)}
      (whole : ¬ stage.Breaks deed.perform) (later : Leads (stage.next deed) deeds last) :
      Leads stage (deed :: deeds) last

theorem Leads.append {first second last : Stage C M W} {earlier later : List (Deed C W)}
    (led : first.Leads earlier second) (further : second.Leads later last) :
    first.Leads (earlier ++ later) last := by
  induction led with
  | rest stage => exact further
  | step whole _ ih => exact .step whole (ih further)

omit [Command C] [World W] [WorkMonitor M] in
/-- A fleet that was just made, in a world of which nothing is known. -/
inductive Opening : Stage C M W → Prop where
  | made {settings : Settings} {monitor : M} {fleet : Fleet C M}
      (made : Fleet.new settings monitor = .ok fleet) (catalog : Catalog) (world : W) :
      Opening { fleet := fleet.withCatalog catalog, world }

/-- What the deeds of a course contribute to a list, each from the stage at which it is done. -/
def collect {α : Type} (note : Stage C M W → Deed C W → List α) :
    Stage C M W → List (Deed C W) → List α
  | _, [] => []
  | stage, deed :: deeds => note stage deed ++ collect note (stage.next deed) deeds

theorem collect_append {α : Type} (note : Stage C M W → Deed C W → List α)
    {first second : Stage C M W} {earlier : List (Deed C W)} (led : first.Leads earlier second)
    (later : List (Deed C W)) :
    collect note first (earlier ++ later) =
      collect note first earlier ++ collect note second later := by
  induction led with
  | rest stage => rfl
  | step whole _ ih => simp only [List.cons_append, collect, ih, List.append_assoc]

theorem mem_collect {α : Type} {note : Stage C M W → Deed C W → List α} {first last : Stage C M W}
    {course : List (Deed C W)} (led : first.Leads course last) {value : α}
    (listed : value ∈ collect note first course) :
    ∃ earlier deed later before, course = earlier ++ deed :: later ∧ first.Leads earlier before ∧
      value ∈ note before deed := by
  induction led with
  | rest stage => cases listed
  | @step stage last deed deeds whole led ih =>
    rcases List.mem_append.mp listed with now | afterwards
    · exact ⟨[], deed, deeds, stage, rfl, .rest stage, now⟩
    · obtain ⟨earlier, other, later, before, split, ledThere, noted⟩ := ih afterwards
      refine ⟨deed :: earlier, other, later, before, ?_, .step whole ledThere, noted⟩
      rw [split, List.cons_append]

omit [Command C] [World W] [WorkMonitor M] in
theorem Opening.members {stage : Stage C M W} (opening : stage.Opening) :
    stage.fleet.members = .empty := by
  obtain ⟨made, catalog, world⟩ := opening
  obtain ⟨sanitized, _, same⟩ := Fleet.new_eq made
  rw [same]
  rfl

omit [Command C] [World W] [WorkMonitor M] in
theorem Opening.holder? {stage : Stage C M W} (opening : stage.Opening) (handle : Submitter) :
    stage.fleet.holder? handle = none := by
  apply Fleet.holder?_of_missing
  rw [opening.members]
  rfl

omit [Command C] [World W] [WorkMonitor M] in
theorem Opening.signals {stage : Stage C M W} (opening : stage.Opening) : stage.signals = [] := by
  cases opening
  rfl

end Stage

/-! ### What a single deed does -/

/-- What a deed that does not break off does to a stage. -/
inductive Does (stage : Stage C M W) : Deed C W → Stage C M W → Prop where
  /-- An operation that is refused at once, or has nothing to do. -/
  | declined {deed : Deed C W} (silent : deed.submissions stage.fleet = [])
      (untimed : deed.isTick = false)
      (lasting : ∀ id, deed ≠ .remove id) : Does stage deed stage
  | unremoved {id : TurtleId} (missing : stage.fleet.members.get? id = none) :
      Does stage (.remove id) stage
  | submitted (submitter : Submitter) (command : C) :
      Does stage (.submitVia submitter command)
        { stage with fleet := (stage.fleet.submitVia submitter command).2 }
  | submittedFor {id : TurtleId} {member : Member C} (command : C)
      (found : stage.fleet.members.get? id = some member) :
      Does stage (.submit id command)
        { stage with fleet := (stage.fleet.submitVia ⟨id, member.registration⟩ command).2 }
  | ticked (arrivals : TurtleId → List (Submitter × C)) (nanos : TurtleId → Nat) :
      Does stage (.tick arrivals nanos) (stage.after (Operation.tickAmid arrivals nanos))
  /-- The world makes no entity. -/
  | unspawned {spec : TurtleSpec} {cause : WorldError} {world : W} {news : List Signal}
      (absent : stage.fleet.members.get? spec.turtleId = none)
      (spawned : stage.Answers spec.turtleId (.spawn spec.world spec.pos
        (Turtle.unplaced spec stage.fleet.settings).snapshot) (.error cause) world)
      (quiet : Quiet news) (untold : noticesIn news = []) :
      Does stage (.register spec) { stage with world, signals := stage.signals ++ news }
  /-- The world makes an entity that is no turtle, which is removed again. -/
  | discarded {spec : TurtleSpec} {entity : EntityRef} {between world : W}
      {noted news : List Signal}
      (absent : stage.fleet.members.get? spec.turtleId = none)
      (spawned : stage.Answers spec.turtleId (.spawn spec.world spec.pos
        (Turtle.unplaced spec stage.fleet.settings).snapshot) (.ok entity) between)
      (foreign : entity.kind ≠ .turtle)
      (removed : Stage.Answers { stage with world := between, signals := stage.signals ++ noted }
        spec.turtleId (.remove entity.world entity.pos) () world)
      (quiet : Quiet news) (untold : noticesIn news = []) :
      Does stage (.register spec) { stage with world, signals := stage.signals ++ news }
  | enrolled {spec : TurtleSpec} {entity : EntityRef} {world : W} {news : List Signal}
      (absent : stage.fleet.members.get? spec.turtleId = none)
      (spawned : stage.Answers spec.turtleId (.spawn spec.world spec.pos
        (Turtle.unplaced spec stage.fleet.settings).snapshot) (.ok entity) world)
      (kind : entity.kind = .turtle) (quiet : Quiet news) (untold : noticesIn news = []) :
      Does stage (.register spec)
        { fleet := (stage.fleet.enroll { Turtle.unplaced spec stage.fleet.settings with entity }).2
          world
          signals := stage.signals ++ news }
  | upgraded {id : TurtleId} {member : Member C} (side : Side) (upgrade : Option Upgrade)
      (found : stage.fleet.members.get? id = some member) :
      Does stage (.setUpgrade id side upgrade)
        { stage with
          fleet := stage.fleet.setMember id { member with
            turtle := (member.turtle.setUpgrade side upgrade member.turtle.attached).2.1 }
          signals := stage.signals ++
            (member.turtle.setUpgrade side upgrade member.turtle.attached).2.2.map
              fun notice => .effect (.equipment notice) }
  | attached {id : TurtleId} {member : Member C}
      (found : stage.fleet.members.get? id = some member) (apart : member.turtle.attached = false) :
      Does stage (.attach id)
        { stage with
          fleet := stage.fleet.setMember id { member with turtle := { member.turtle with
            attached := true, equipment := member.turtle.equipment.invalidate } } }
  | detached {id : TurtleId} {member : Member C}
      (found : stage.fleet.members.get? id = some member) (joined : member.turtle.attached = true) :
      Does stage (.detach id)
        { stage with
          fleet := stage.fleet.setMember id { member with turtle := { member.turtle with
            attached := false, equipment := member.turtle.equipment.invalidate } }
          signals := stage.signals ++
            (Equipment.dismissal id).map fun notice => .effect (.equipment notice) }
  /-- The held response goes out first, and then the failures of the queued commands. -/
  | removed {id : TurtleId} {member : Member C} {world : W} {news : List Signal}
      (found : stage.fleet.members.get? id = some member)
      (answered : Stage.Answers { stage with fleet := stage.fleet.release id member } id
        (.remove member.turtle.world member.turtle.pos) () world)
      (quiet : Quiet news)
      (told : noticesIn news = if member.turtle.attached then Equipment.dismissal id else []) :
      Does stage (.remove id)
        { fleet := stage.fleet.release id member
          world
          signals := stage.signals ++ news ++
            ((member.pending.toList ++ member.queue.entries.map fun entry =>
              Response.failure entry.id turtleRemoved).map fun response =>
                .published (response.toEvent id)) ++
            [.closed id] }
  | reshaped (change : W → W) :
      Does stage (.reshape change) { stage with world := change stage.world }

namespace Does

theorem register (stage : Stage C M W) (spec : TurtleSpec)
    (whole : ¬ stage.Breaks (Deed.register (C := C) (W := W) spec).perform) :
    Does stage (.register spec) (stage.next (.register spec)) := by
  have registers := Operation.registers_register stage spec
  have next := stage.next_register spec
  generalize ended : Operation.register spec stage = result at registers
  rw [next, Stage.after, ended]
  cases registers with
  | duplicate known => exact .declined rfl rfl nofun
  | unspawned absent spawned quiet untold => exact .unspawned absent spawned quiet untold
  | discarded absent spawned foreign removed quiet untold =>
    exact .discarded absent spawned foreign removed quiet untold
  | enrolled absent spawned kind quiet untold => exact .enrolled absent spawned kind quiet untold
  | broken fault left =>
    refine (whole ⟨fault, left, ?_⟩).elim
    simp only [Deed.perform, bind_of_error ended]

theorem remove (stage : Stage C M W) (id : TurtleId)
    (whole : ¬ stage.Breaks (Deed.remove (C := C) (W := W) id).perform) :
    Does stage (.remove id) (stage.next (.remove id)) := by
  rcases found : stage.fleet.members.get? id with _ | member
  · have left : stage.next (.remove id) = stage := by
      simp only [Stage.next, Stage.after, Deed.perform, Operation.remove, bind, EStateM.bind,
        Operation.member_of_missing found]
    rw [left]
    exact .unremoved found
  rcases Operation.ask_cases { stage with fleet := stage.fleet.release id member } id
      (.remove member.turtle.world member.turtle.pos) with
    ⟨_, world, answered⟩ | ⟨fault, left, broken⟩
  · obtain ⟨news, quiet, untold, asked⟩ := Operation.ask_of_answers answered
    by_cases joined : member.turtle.attached = true
    · have left : stage.next (.remove id) =
          { fleet := stage.fleet.release id member
            world
            signals := stage.signals ++
                (news ++ (Equipment.dismissal id).map fun notice => .effect (.equipment notice)) ++
              ((member.pending.toList ++ member.queue.entries.map fun entry =>
                Response.failure entry.id turtleRemoved).map fun response =>
                  .published (response.toEvent id)) ++
              [.closed id] } := by
        simp only [Stage.next, Stage.after, Deed.perform, Operation.remove, bind, EStateM.bind,
          Operation.member_of_get? found, Operation.fleet, Operation.setFleet, asked,
          Operation.announce, Operation.signal, joined, ↓reduceIte, pure, EStateM.pure,
          List.append_assoc]
      rw [left]
      exact .removed found answered (quiet.append (quiet_map _ _))
        (by rw [noticesIn_append, untold, noticesIn_equipment, if_pos joined]; rfl)
    · have left : stage.next (.remove id) =
          { fleet := stage.fleet.release id member
            world
            signals := stage.signals ++ news ++
              ((member.pending.toList ++ member.queue.entries.map fun entry =>
                Response.failure entry.id turtleRemoved).map fun response =>
                  .published (response.toEvent id)) ++
              [.closed id] } := by
        simp only [Stage.next, Stage.after, Deed.perform, Operation.remove, bind, EStateM.bind,
          Operation.member_of_get? found, Operation.fleet, Operation.setFleet, asked,
          Operation.signal, joined, Bool.false_eq_true, ↓reduceIte, pure, EStateM.pure,
          List.append_assoc]
      rw [left]
      exact .removed found answered quiet (by rw [untold, if_neg joined])
  · refine (whole ⟨fault, left, ?_⟩).elim
    simp only [Deed.perform, Operation.remove, bind, EStateM.bind, Operation.member_of_get? found,
      Operation.fleet, Operation.setFleet, broken]

theorem submit (stage : Stage C M W) (id : TurtleId) (command : C) :
    Does stage (.submit id command) (stage.next (.submit id command)) := by
  rcases found : stage.fleet.members.get? id with _ | member
  · have left : stage.next (.submit id command) = stage := by
      simp only [Stage.next, Stage.after, Deed.perform, Operation.submit, Operation.fleet, bind,
        EStateM.bind, Fleet.submit, Fleet.submitter, found, Except.bind]
      rfl
    rw [left]
    exact .declined (by simp [Deed.submissions, found]) rfl nofun
  · have left : stage.next (.submit id command) =
        { stage with fleet := (stage.fleet.submitVia ⟨id, member.registration⟩ command).2 } := by
      simp only [Stage.next, Stage.after, Deed.perform, Operation.submit, Operation.fleet, bind,
        EStateM.bind, Fleet.submit, Fleet.submitter, found, Except.bind]
      rfl
    rw [left]
    exact .submittedFor command found

theorem setUpgrade (stage : Stage C M W) (id : TurtleId) (side : Side) (upgrade : Option Upgrade) :
    Does stage (.setUpgrade id side upgrade) (stage.next (.setUpgrade id side upgrade)) := by
  rcases found : stage.fleet.members.get? id with _ | member
  · have left : stage.next (.setUpgrade id side upgrade) = stage := by
      simp only [Stage.next, Stage.after, Deed.perform, Operation.setUpgrade, bind, EStateM.bind,
        Operation.member_of_missing found]
    rw [left]
    exact .declined rfl rfl nofun
  · have left : stage.next (.setUpgrade id side upgrade) =
        { stage with
          fleet := stage.fleet.setMember id { member with
            turtle := (member.turtle.setUpgrade side upgrade member.turtle.attached).2.1 }
          signals := stage.signals ++
            (member.turtle.setUpgrade side upgrade member.turtle.attached).2.2.map
              fun notice => .effect (.equipment notice) } := by
      simp only [Stage.next, Stage.after, Deed.perform, Operation.setUpgrade, bind, EStateM.bind,
        Operation.member_of_get? found]
      rfl
    rw [left]
    exact .upgraded side upgrade found

theorem attach (stage : Stage C M W) (id : TurtleId) :
    Does stage (.attach id) (stage.next (.attach id)) := by
  rcases found : stage.fleet.members.get? id with _ | member
  · have left : stage.next (.attach id) = stage := by
      simp only [Stage.next, Stage.after, Deed.perform, Operation.attach, bind, EStateM.bind,
        Operation.member_of_missing found]
    rw [left]
    exact .declined rfl rfl nofun
  rcases joined : member.turtle.attached with _ | _
  · have left : stage.next (.attach id) =
        { stage with
          fleet := stage.fleet.setMember id { member with turtle := { member.turtle with
            attached := true, equipment := member.turtle.equipment.invalidate } } } := by
      simp only [Stage.next, Stage.after, Deed.perform, Operation.attach, bind, EStateM.bind,
        Operation.member_of_get? found, joined, Bool.false_eq_true, ↓reduceIte]
      rfl
    rw [left]
    exact .attached found joined
  · have left : stage.next (.attach id) = stage := by
      simp only [Stage.next, Stage.after, Deed.perform, Operation.attach, bind, EStateM.bind,
        Operation.member_of_get? found, joined, ↓reduceIte]
      rfl
    rw [left]
    exact .declined rfl rfl nofun

theorem detach (stage : Stage C M W) (id : TurtleId) :
    Does stage (.detach id) (stage.next (.detach id)) := by
  rcases found : stage.fleet.members.get? id with _ | member
  · have left : stage.next (.detach id) = stage := by
      simp only [Stage.next, Stage.after, Deed.perform, Operation.detach, bind, EStateM.bind,
        Operation.member_of_missing found]
    rw [left]
    exact .declined rfl rfl nofun
  rcases joined : member.turtle.attached with _ | _
  · have left : stage.next (.detach id) = stage := by
      simp only [Stage.next, Stage.after, Deed.perform, Operation.detach, bind, EStateM.bind,
        Operation.member_of_get? found, joined, Bool.false_eq_true, ↓reduceIte]
      rfl
    rw [left]
    exact .declined rfl rfl nofun
  · have left : stage.next (.detach id) =
        { stage with
          fleet := stage.fleet.setMember id { member with turtle := { member.turtle with
            attached := false, equipment := member.turtle.equipment.invalidate } }
          signals := stage.signals ++
            (Equipment.dismissal id).map fun notice => .effect (.equipment notice) } := by
      simp only [Stage.next, Stage.after, Deed.perform, Operation.detach, bind, EStateM.bind,
        Operation.member_of_get? found, joined, ↓reduceIte]
      rfl
    rw [left]
    exact .detached found joined

end Does

/-- Every deed that does not break off does what is listed. -/
theorem Stage.does_next (stage : Stage C M W) (deed : Deed C W)
    (whole : ¬ stage.Breaks deed.perform) : Does stage deed (stage.next deed) := by
  cases deed with
  | register spec => exact .register stage spec whole
  | submit id command => exact .submit stage id command
  | submitVia submitter command => exact .submitted submitter command
  | tick arrivals nanos => exact .ticked arrivals nanos
  | setUpgrade id side upgrade => exact .setUpgrade stage id side upgrade
  | attach id => exact .attach stage id
  | detach id => exact .detach stage id
  | remove id => exact .remove stage id whole
  | reshape change => exact .reshaped change

end TurtleFleet
