import TurtleFleet.Proofs.Endings
import TurtleFleet.Proofs.Entities
import TurtleFleet.Proofs.Responses

/-! The career of a turtle: the commands that it carries out in the course of a registration, each
with its ending. In a world held in memory nothing else changes a turtle, apart from its equipment,
its animation and its computer. -/

namespace TurtleFleet

variable {C M W : Type}

/-- A command that was carried out, and how it ended. -/
abbrev Task (C : Type) := QueueEntry C × Except Stop (List Json)

namespace Task

/-- What a report says of a command that was carried out. -/
def record [Command C] (task : Task C) (id : TurtleId) : ExecutedCommand :=
  { turtleId := id, id := task.1.id, command := Command.name task.1.command,
    success := task.2.isOk }

/-- The commands that succeeded, in their order. -/
def succeeded (tasks : List (Task C)) : List C := (tasks.filter (·.2.isOk)).map (·.1.command)

theorem succeeded_append (first second : List (Task C)) :
    succeeded (first ++ second) = succeeded first ++ succeeded second := by
  simp [succeeded]

theorem mem_succeeded_singleton {command : C} {entry : QueueEntry C}
    {result : Except Stop (List Json)} :
    command ∈ succeeded [(entry, result)] ↔ entry.command = command ∧ result.isOk = true := by
  cases done : result.isOk with
  | true => simp [succeeded, done, eq_comm]
  | false => simp [succeeded, done]

end Task

variable [Command C] [World W] [WorkMonitor M]

namespace Round

/-- The command that a turtle carries out when it is visited. -/
def task? (round : Round C M W) (id : TurtleId) : Option (Task C) :=
  match round.stage.fleet.members.get? id with
  | none => none
  | some member =>
    let woken := member.woken id round.stage.fleet.time
    if woken.turtle.animation.playing || !(WorkMonitor.canWork round.stage.fleet.monitor).1 then none
    else member.queue.entries.head?.map fun entry => (entry, round.ending id woken entry)

omit [WorkMonitor M] in
/-- A command ends the same way whether or not the visit has begun. -/
theorem ending_wake (round : Round C M W) (id : TurtleId) (member : Member C)
    (queue : CommandQueue C) (monitor : M) (entry : QueueEntry C) :
    ((round.wake id member).2.watched monitor).ending id
        { member.woken id round.stage.fleet.time with queue } entry =
      round.ending id (member.woken id round.stage.fleet.time) entry := by
  unfold ending
  rw [moversExcept_wake]
  rfl

/-- A visit, seen from what the turtle carries out. -/
inductive Attends (round : Round C M W) (id : TurtleId) (nanos : Nat) :
    Option (Task C) → Round C M W → Prop where
  | absent (missing : round.stage.fleet.members.get? id = none) :
      Attends round id nanos none round
  | waits {member : Member C} {monitor : M} {deferred : List TurtleId}
      (found : round.stage.fleet.members.get? id = some member) :
      Attends round id nanos none
        { (round.wake id member).2.watched monitor with
          report := { (round.wake id member).2.report with deferred } }
  | works {member : Member C} {entry : QueueEntry C} {rest : List (QueueEntry C)} {monitor : M}
      (found : round.stage.fleet.members.get? id = some member)
      (still : (member.woken id round.stage.fleet.time).turtle.animation.playing = false)
      (waiting : member.queue.entries = entry :: rest) :
      Attends round id nanos
        (some (entry, round.ending id (member.woken id round.stage.fleet.time) entry))
        (((round.wake id member).2.watched monitor).execute id
          { member.woken id round.stage.fleet.time with queue := { member.queue with entries := rest } }
          entry nanos)

theorem attends_visit (round : Round C M W) (id : TurtleId) (nanos : Nat) :
    Attends round id nanos (round.task? id) (round.visit id nanos) := by
  have visits := visits_visit round id nanos
  generalize round.visit id nanos = left at visits ⊢
  cases visits with
  | absent missing =>
    have nothing : round.task? id = none := by simp only [task?, missing]
    rw [nothing]
    exact .absent missing
  | busy found plays =>
    have nothing : round.task? id = none := by simp [task?, found, plays]
    rw [nothing]
    exact .waits found
  | idle found still empty =>
    have nothing : round.task? id = none := by simp [task?, found, empty]
    rw [nothing]
    exact .waits found
  | deferred found still waiting denied =>
    have nothing : round.task? id = none := by simp [task?, found, denied]
    rw [nothing]
    exact .waits found
  | @executed member entry rest monitor found still waiting allowed =>
    have task : round.task? id =
        some (entry, round.ending id (member.woken id round.stage.fleet.time) entry) := by
      simp [task?, found, still, waiting, allowed]
    rw [task]
    exact .works found still waiting

/-- The report of a tick lists what the turtle carried out. -/
theorem startedFor_visit (round : Round C M W) (id : TurtleId) (nanos : Nat) :
    (round.visit id nanos).report.startedFor id =
      round.report.startedFor id ++ (round.task? id).toList.map (·.record id) := by
  have attends := round.attends_visit id nanos
  generalize round.visit id nanos = left at attends ⊢
  generalize round.task? id = task at attends ⊢
  cases attends with
  | absent missing => simp
  | waits found => simp [TickReport.startedFor]
  | @works member entry rest monitor found still waiting =>
    have ended := round.ending_wake id member { member.queue with entries := rest } monitor entry
    simp only [Option.toList_some, List.map_cons, List.map_nil, ← ended, Task.record]
    simp [TickReport.startedFor, watched, execute, ending]

end Round

namespace Stage

/-- What the turtle of a registration carries out during a deed. -/
def workIn (handle : Submitter) (stage : Stage C M W) : Deed C W → List (Task C)
  | .tick arrivals nanos =>
    if (stage.fleet.holder? handle).isSome then
      ((Operation.reached arrivals nanos stage handle.turtleId).task? handle.turtleId).toList
    else []
  | _ => []

/-- What the turtle of a registration carries out in a course. -/
def work (handle : Submitter) : Stage C M W → List (Deed C W) → List (Task C) :=
  collect (workIn handle)

theorem workIn_of_untimed {stage : Stage C M W} {deed : Deed C W} (untimed : deed.isTick = false)
    (handle : Submitter) : workIn handle stage deed = [] := by
  cases deed with
  | tick arrivals nanos => cases untimed
  | _ => rfl

/-! ### How registrations come into force -/

/-- A registration comes into force as the deed that registers its turtle. -/
theorem Booked.registered {stage : Stage C M W} (booked : stage.Booked) {deed : Deed C W}
    (whole : ¬ stage.Breaks deed.perform) {handle : Submitter} {now : Member C}
    (gone : stage.fleet.holder? handle = none)
    (held : (stage.next deed).fleet.holder? handle = some now) :
    ∃ spec, deed = .register spec ∧ Operation.register spec stage = .ok handle (stage.next deed) := by
  obtain ⟨registration, counted, _⟩ := Account.enrolled_of_gone whole gone
    (fun member found => booked.audible found) held
  have registers : deed.isRegistration = true := by
    cases other : deed.isRegistration with
    | true => rfl
    | false =>
      have same := stage.registrations_next whole other
      omega
  cases deed with
  | register spec =>
    refine ⟨spec, rfl, ?_⟩
    have ends := Operation.registers_register stage spec
    have next := stage.next_register spec
    generalize ended : Operation.register spec stage = result at ends ⊢
    rw [Stage.after, ended] at next
    rw [next] at held ⊢
    have unchanged {left : Stage C M W} (same : left.fleet = stage.fleet)
        (heldLeft : left.fleet.holder? handle = some now) : False := by
      rw [same, gone] at heldLeft
      cases heldLeft
    cases ends with
    | duplicate known => exact (unchanged rfl held).elim
    | unspawned absent spawned quiet untold => exact (unchanged rfl held).elim
    | discarded absent spawned foreign removed quiet untold => exact (unchanged rfl held).elim
    | broken fault left =>
      refine (whole ⟨fault, left, ?_⟩).elim
      simp only [Deed.perform, bind_of_error ended]
    | enrolled absent spawned kind quiet untold =>
      obtain ⟨found, own⟩ := Fleet.holder?_eq_some_iff.mp held
      by_cases named : handle.turtleId = spec.turtleId
      · have same : handle =
            { turtleId := spec.turtleId, registration := stage.fleet.registrations } := by
          rw [← named, ← registration]
        rw [← same]
      · refine (unchanged rfl (Fleet.holder?_eq_some_iff.mpr ⟨?_, own⟩)).elim
        rw [← found]
        exact (Keyed.get?_insert_of_ne _ _ named).symm
  | _ => cases registers

theorem Booked.registered_of_leads {stage last : Stage C M W} {course : List (Deed C W)}
    (booked : stage.Booked) (led : stage.Leads course last) {handle : Submitter} {member : Member C}
    (fresh : stage.fleet.holder? handle = none) (held : last.fleet.holder? handle = some member) :
    ∃ earlier spec later before placed, course = earlier ++ .register spec :: later ∧
      stage.Leads earlier before ∧ Operation.register spec before = .ok handle placed ∧
      placed.Leads later last := by
  induction led with
  | rest stage =>
    rw [fresh] at held
    cases held
  | @step stage last deed deeds whole led ih =>
    rcases heldNext : (stage.next deed).fleet.holder? handle with _ | now
    · obtain ⟨earlier, spec, later, before, placed, split, first, registered, second⟩ :=
        ih (booked.next whole) heldNext held
      refine ⟨deed :: earlier, spec, later, before, placed, ?_, .step whole first, registered, second⟩
      rw [split, List.cons_append]
    · obtain ⟨spec, same, registered⟩ := booked.registered whole fresh heldNext
      subst same
      exact ⟨[], spec, deeds, stage, _, rfl, .rest stage, registered, led⟩

theorem Booked.held_between {stage last : Stage C M W} {course : List (Deed C W)} {deed : Deed C W}
    (booked : stage.Booked) (whole : ¬ stage.Breaks deed.perform)
    (led : (stage.next deed).Leads course last) {handle : Submitter} {was now : Member C}
    (held : stage.fleet.holder? handle = some was) (heldLast : last.fleet.holder? handle = some now) :
    ∃ member, (stage.next deed).fleet.holder? handle = some member := by
  rcases gone : (stage.next deed).fleet.holder? handle with _ | member
  · obtain ⟨found, own⟩ := Fleet.holder?_eq_some_iff.mp held
    have known := booked.known found
    have counted := (stage.fleet_next deed whole).2.2
    have registration : handle.registration = was.registration := by
      rw [← own]
      rfl
    rw [(booked.next whole).gone led gone (by omega)] at heldLast
    cases heldLast
  · exact ⟨member, rfl⟩

end Stage

/-! ### What becomes of the turtle -/

section

variable {M : Type} [WorkMonitor M]

/-- What can become of a turtle that stays registered, with what it carries out. Whatever is safe to
say of the turtle and its world may be said as it sets to work. -/
inductive Stage.Career (stage : Stage TurtleCommand M MemoryWorld)
    (safe : Turtle → MemoryWorld → Prop) (turtle : Turtle) :
    List (Task TurtleCommand) → Turtle → Prop where
  | rested (equipment : Equipment) (animation : Animation) (attached : Bool) :
      Career stage safe turtle [] { turtle with equipment, animation, attached }
  | worked {context : Context} {equipment : Equipment} {animation : Animation}
      {memory after : MemoryWorld} {entry : QueueEntry TurtleCommand}
      {result : Except Stop (List Json)} {left : Turtle} {notices : List EquipmentNotice}
      (fit : safe turtle memory) (idle : animation.playing = false)
      (settings : context.settings = stage.fleet.settings)
      (ending : entry.command.Ending context { turtle with equipment, animation } memory result left
        after notices) :
      Career stage safe turtle [(entry, result)] left

/-- A turtle that carries out nothing changes nothing in the world. -/
theorem Round.world_visit {round : Round TurtleCommand M MemoryWorld} {id : TurtleId}
    (idle : round.task? id = none) (nanos : Nat) :
    (round.visit id nanos).stage.world = round.stage.world := by
  have attends := round.attends_visit id nanos
  rw [idle] at attends
  generalize round.visit id nanos = left at attends ⊢
  cases attends with
  | absent missing => rfl
  | waits found => rfl

/-- A turtle that carries out a command on a visit is idle, and the command ends in one of the ways
listed. -/
theorem Round.ending_visit {round : Round TurtleCommand M MemoryWorld} {id : TurtleId}
    {task : Task TurtleCommand} (works : round.task? id = some task) (nanos : Nat) :
    ∃ member served notices, round.stage.fleet.members.get? id = some member ∧
      (round.visit id nanos).stage.fleet.members.get? id = some served ∧
      (member.woken id round.stage.fleet.time).turtle.animation.playing = false ∧
      task.1.command.Ending round.stage.fleet.context
        (member.woken id round.stage.fleet.time).turtle round.stage.world task.2 served.turtle
        (round.visit id nanos).stage.world notices := by
  have attends := round.attends_visit id nanos
  rw [works] at attends
  generalize round.visit id nanos = left at attends ⊢
  cases attends with
  | @works member entry rest monitor found still waiting =>
    obtain ⟨served, notices, known, ending, _⟩ :=
      ((round.wake id member).2.watched monitor).execute_ends id
        { member.woken id round.stage.fleet.time with queue := { member.queue with entries := rest } }
        entry nanos
    rw [round.ending_wake] at ending
    exact ⟨member, served, notices, found, known, still, ending⟩

/-- On a visit a turtle rests or carries out one command. -/
theorem Round.career_visit {stage : Stage TurtleCommand M MemoryWorld}
    {safe : Turtle → MemoryWorld → Prop} {round : Round TurtleCommand M MemoryWorld}
    {id : TurtleId} {member served : Member TurtleCommand}
    (found : round.stage.fleet.members.get? id = some member)
    (fit : safe member.turtle round.stage.world)
    (settings : round.stage.fleet.settings = stage.fleet.settings) (nanos : Nat)
    (foundAfter : (round.visit id nanos).stage.fleet.members.get? id = some served) :
    stage.Career safe member.turtle (round.task? id).toList served.turtle := by
  rcases task : round.task? id with _ | task
  · have attends := round.attends_visit id nanos
    rw [task] at attends
    generalize round.visit id nanos = left at attends foundAfter
    cases attends with
    | absent missing =>
      rw [missing] at found
      cases found
    | waits same =>
      cases found.symm.trans same
      have known : (round.wake id member).2.stage.fleet.members.get? id =
          some (member.woken id round.stage.fleet.time) := Keyed.get?_insert_self ..
      cases known.symm.trans foundAfter
      rw [member.turtle_woken]
      exact .rested _ _ member.turtle.attached
  · obtain ⟨_, _, notices, same, known, still, ending⟩ := Round.ending_visit task nanos
    cases found.symm.trans same
    cases foundAfter.symm.trans known
    rw [member.turtle_woken] at ending
    exact .worked fit still settings ending

namespace Stage

variable {holds : Stage TurtleCommand M MemoryWorld → Prop} {safe : Turtle → MemoryWorld → Prop}
  {stage : Stage TurtleCommand M MemoryWorld}

/-- During a tick a turtle rests or carries out one command. -/
theorem career_tick (lasts : LastsTicks holds)
    (safely : ∀ {stage : Stage TurtleCommand M MemoryWorld} {id : TurtleId}
      {member : Member TurtleCommand}, holds stage → stage.fleet.members.get? id = some member →
      safe member.turtle stage.world)
    (fit : holds stage) (arrivals : TurtleId → List (Submitter × TurtleCommand))
    (nanos : TurtleId → Nat) {handle : Submitter} {was now : Member TurtleCommand}
    (held : stage.fleet.holder? handle = some was)
    (heldNext : (stage.next (.tick arrivals nanos)).fleet.holder? handle = some now) :
    stage.Career safe was.turtle (workIn handle stage (.tick arrivals nanos)) now.turtle := by
  obtain ⟨found, _⟩ := Fleet.holder?_eq_some_iff.mp held
  obtain ⟨foundNext, _⟩ := Fleet.holder?_eq_some_iff.mp heldNext
  obtain ⟨cursor, after⟩ := stage.next_tick arrivals nanos
  obtain ⟨early, late, reaches⟩ := Operation.exists_reaches arrivals nanos found
  have fitThere := safely (reaches.lasts holds lasts fit) reaches.found
  have settings := congrArg Context.settings reaches.context
  rw [after] at foundNext
  obtain ⟨served, foundServed, same⟩ :=
    Option.map_eq_some_iff.mp (reaches.foundAfter.symm.trans foundNext)
  have career := Round.career_visit reaches.found fitThere settings _ foundServed
  subst same
  simpa only [workIn, held, Option.isSome_some, ↓reduceIte, Member.takeIn_turtle] using career

/-- A deed changes a turtle that stays registered as little as a career allows. -/
theorem career_next (lasts : LastsTicks holds)
    (safely : ∀ {stage : Stage TurtleCommand M MemoryWorld} {id : TurtleId}
      {member : Member TurtleCommand}, holds stage → stage.fleet.members.get? id = some member →
      safe member.turtle stage.world)
    (fit : holds stage) (deed : Deed TurtleCommand MemoryWorld) {handle : Submitter}
    {was now : Member TurtleCommand} (held : stage.fleet.holder? handle = some was)
    (heldNext : (stage.next deed).fleet.holder? handle = some now) :
    stage.Career safe was.turtle (workIn handle stage deed) now.turtle := by
  obtain ⟨found, _⟩ := Fleet.holder?_eq_some_iff.mp held
  obtain ⟨foundNext, _⟩ := Fleet.holder?_eq_some_iff.mp heldNext
  have rests (untimed : deed.isTick = false) (equipment : Equipment) (attached : Bool)
      (same : now.turtle = { was.turtle with equipment, attached }) :
      stage.Career safe was.turtle (workIn handle stage deed) now.turtle := by
    rw [workIn_of_untimed untimed, same]
    exact .rested equipment was.turtle.animation attached
  have stays (untimed : deed.isTick = false)
      (kept : (stage.next deed).fleet.members.get? handle.turtleId =
        stage.fleet.members.get? handle.turtleId) :
      stage.Career safe was.turtle (workIn handle stage deed) now.turtle := by
    rw [kept, found] at foundNext
    cases foundNext
    exact rests untimed was.turtle.equipment was.turtle.attached rfl
  have took (untimed : deed.isTick = false) (submitter : Submitter) (command : TurtleCommand)
      (left : stage.next deed = { stage with
        fleet := (stage.fleet.submitVia submitter command).2 }) :
      stage.Career safe was.turtle (workIn handle stage deed) now.turtle := by
    rw [left, Fleet.get?_submitVia, found] at foundNext
    cases foundNext
    exact rests untimed was.turtle.equipment was.turtle.attached rfl
  have refits (untimed : deed.isTick = false) {target : TurtleId} {member : Member TurtleCommand}
      (known : stage.fleet.members.get? target = some member) (equipment : Equipment)
      (attached : Bool)
      (left : (stage.next deed).fleet = stage.fleet.setMember target
        { member with turtle := { member.turtle with equipment, attached } }) :
      stage.Career safe was.turtle (workIn handle stage deed) now.turtle := by
    by_cases own : handle.turtleId = target
    · subst own
      cases found.symm.trans known
      rw [left, Fleet.setMember, Keyed.get?_insert_self] at foundNext
      cases foundNext
      exact rests untimed equipment attached rfl
    · apply stays untimed
      rw [left, Fleet.setMember, Keyed.get?_insert_of_ne _ _ own]
  have does := stage.does_next deed (stage.whole_of_memory deed)
  generalize left : stage.next deed = after at does
  cases does with
  | declined silent untimed lasting => exact stays untimed (by rw [left])
  | unremoved missing => exact stays rfl (by rw [left])
  | submitted submitter command => exact took rfl submitter command left
  | submittedFor command known => exact took rfl _ command left
  | ticked arrivals nanos => exact career_tick lasts safely fit arrivals nanos held heldNext
  | unspawned absent spawned quiet => exact stays rfl (by rw [left])
  | discarded absent spawned foreign removed quiet => exact stays rfl (by rw [left])
  | enrolled absent spawned kind quiet =>
    apply stays rfl
    rw [left]
    apply Keyed.get?_insert_of_ne
    intro own
    rw [own] at found
    cases absent.symm.trans found
  | upgraded side upgrade known => exact refits rfl known _ _ (congrArg Stage.fleet left)
  | attached known apart => exact refits rfl known _ _ (congrArg Stage.fleet left)
  | detached known joined => exact refits rfl known _ _ (congrArg Stage.fleet left)
  | @removed id member _ _ known answered quiet =>
    apply stays rfl
    rw [left, Fleet.release, Keyed.get?_erase, if_neg]
    intro own
    rw [left, Fleet.release, Keyed.get?_erase, if_pos own] at foundNext
    cases foundNext
  | reshaped change => exact stays rfl (by rw [left])

end Stage

/-- A registration that succeeds is a deed. Its turtle is that of the specification, in an entity at
the place of the specification. -/
theorem Operation.career_of_register {stage placed : Stage TurtleCommand M MemoryWorld}
    {spec : TurtleSpec} {handle : Submitter}
    (registered : Operation.register spec stage = .ok handle placed) :
    placed = stage.next (.register spec) ∧ ∃ member entity,
      placed.fleet.holder? handle = some member ∧
      member.turtle = { Turtle.unplaced spec stage.fleet.settings with entity } ∧
      entity.world = spec.world ∧ entity.pos = spec.pos := by
  have next : stage.next (.register spec) = placed := by
    rw [stage.next_register, Stage.after, registered]
  have registers := registers_register stage spec
  rw [registered] at registers
  cases registers with
  | @enrolled entity world news absent spawned kind quiet untold =>
    have placedThere : entity.world = spec.world ∧ entity.pos = spec.pos := by
      cases MemoryWorld.Spawns.of_eq (Stage.spawn_of_answers spawned)
      exact ⟨rfl, rfl⟩
    refine ⟨next.symm, { registration := stage.fleet.registrations, queue := {}, turtle :=
      { Turtle.unplaced spec stage.fleet.settings with entity } }, entity, ?_, rfl, placedThere⟩
    apply Fleet.holder?_eq_some_iff.mpr
    exact ⟨Keyed.get?_insert_self .., rfl⟩

/-! ### What careers keep -/

namespace Stage

/-- The settings of a stage, and what holds of all its turtles. -/
structure Upholds (settings : Settings) (holds : Turtle → Prop)
    (stage : Stage TurtleCommand M MemoryWorld) : Prop where
  settled : stage.fleet.settings = settings
  turtles : ∀ {id member}, stage.fleet.members.get? id = some member → holds member.turtle

/-- Under the settings, no career takes from a turtle what holds of it. -/
def CareersKeep (M : Type) [WorkMonitor M] (settings : Settings) (holds : Turtle → Prop) : Prop :=
  ∀ {stage : Stage TurtleCommand M MemoryWorld} {turtle left : Turtle}
    {tasks : List (Task TurtleCommand)}, stage.fleet.settings = settings → holds turtle →
    stage.Career (fun turtle _ => holds turtle) turtle tasks left → holds left

namespace Upholds

variable {settings : Settings} {holds : Turtle → Prop}

omit [WorkMonitor M] in
theorem of_opening {stage : Stage TurtleCommand M MemoryWorld} (opening : stage.Opening) :
    stage.Upholds stage.fleet.settings holds := by
  constructor
  · rfl
  · intro id member found
    rw [opening.members] at found
    cases found

theorem lastsTicks (keep : CareersKeep M settings holds) :
    LastsTicks (Upholds (M := M) settings holds) where
  paced _ _ _ upholds := ⟨upholds.settled, upholds.turtles⟩
  takeIn := by
    intro stage arrivals upholds
    obtain ⟨members, retired, same⟩ := stage.fleet.takeIn_eq arrivals
    constructor
    · show (stage.fleet.takeIn arrivals).settings = settings
      rw [same]
      exact upholds.settled
    · intro id member found
      rw [Fleet.get?_takeIn] at found
      obtain ⟨old, known, same⟩ := Option.map_eq_some_iff.mp found
      rw [← same, Member.takeIn_turtle]
      exact upholds.turtles known
  visit := by
    intro round id nanos upholds
    obtain ⟨members, monitor, same⟩ := round.visit_fleet_eq id nanos
    constructor
    · rw [same]
      exact upholds.settled
    · intro other member found
      by_cases own : other = id
      · subst own
        rcases known : round.stage.fleet.members.get? other with _ | before
        · have left : round.visit other nanos = round := by simp only [Round.visit, known]
          rw [left, known] at found
          cases found
        · have career : round.stage.Career (fun turtle _ => holds turtle) before.turtle
              (round.task? other).toList member.turtle :=
            Round.career_visit known (upholds.turtles known) rfl nanos found
          exact keep upholds.settled (upholds.turtles known) career
      · rw [(round.visit_of_ne own nanos).1] at found
        exact upholds.turtles found

/-- What careers keep holds after every deed, if it holds of the turtles that are registered. -/
theorem next (keep : CareersKeep M settings holds) {stage : Stage TurtleCommand M MemoryWorld}
    (upholds : stage.Upholds settings holds) (booked : stage.Booked)
    (deed : Deed TurtleCommand MemoryWorld)
    (fresh : ∀ spec entity, deed = .register spec →
      holds { Turtle.unplaced spec settings with entity }) :
    (stage.next deed).Upholds settings holds := by
  have whole := stage.whole_of_memory deed
  constructor
  · exact (stage.fleet_next deed whole).1.trans upholds.settled
  · intro id member found
    have held := Fleet.holder?_of_handle found
    rcases known : stage.fleet.holder? (member.handle id) with _ | was
    · obtain ⟨spec, same, registered⟩ := booked.registered whole known held
      obtain ⟨_, now, entity, heldNow, turtle, _⟩ := Operation.career_of_register registered
      cases held.symm.trans heldNow
      rw [turtle, upholds.settled]
      exact fresh spec entity same
    · have career : stage.Career (fun turtle _ => holds turtle) was.turtle
          (workIn (member.handle id) stage deed) member.turtle :=
        career_next (lastsTicks keep) (fun upholds found => upholds.turtles found) upholds deed known
          held
      exact keep upholds.settled (upholds.turtles (Fleet.holder?_eq_some_iff.mp known).1) career

theorem of_leads (keep : CareersKeep M settings holds) {stage last : Stage TurtleCommand M MemoryWorld}
    {course : List (Deed TurtleCommand MemoryWorld)} (upholds : stage.Upholds settings holds)
    (booked : stage.Booked) (led : stage.Leads course last)
    (fresh : ∀ spec entity, .register spec ∈ course →
      holds { Turtle.unplaced spec settings with entity }) : last.Upholds settings holds := by
  induction led with
  | rest stage => exact upholds
  | @step stage last deed deeds whole led ih =>
    have now := upholds.next keep booked deed fun spec entity same =>
      fresh spec entity (same ▸ List.mem_cons_self)
    exact ih now (booked.next whole) fun spec entity listed =>
      fresh spec entity (List.mem_cons_of_mem _ listed)

end Upholds

end Stage

end

end TurtleFleet
