import TurtleFleet.Proofs.Schedule
import TurtleFleet.Rehearsal.World

/-! The pace of animations, and with it the schedule of the responses. Every turtle has its own pace:
it is registered with that of the settings, and only a command that is started for it can give it
another one, which no tame command does. What is due when goes by the pace of the turtle. -/

namespace TurtleFleet

variable {C M W : Type}

variable [Command C] [World W] [WorkMonitor M]

/-- Only a command that is started can change how long animations last, unless it is tame. -/
theorem Round.Serves.duration {context : Context} {movers : List TurtleId} {id : TurtleId}
    {member served : Member C} {world left : W} {answers : List Response}
    {executed : List ExecutedCommand}
    (serves : Serves context movers id member world answers executed served left)
    (steady : executed = [] ∨ Command.Tame C W) :
    served.turtle.animation.duration = member.turtle.animation.duration := by
  have woken : (member.woken id context.time).turtle.animation.duration =
      member.turtle.animation.duration := by
    rw [Member.woken_eq]
    exact Animation.duration_tick _
  cases serves with
  | waits => exact woken
  | @starts entry rest result scene still waiting ran =>
    have tame := steady.resolve_left (List.cons_ne_nil _ _)
    exact (congrArg Prod.snd ran ▸ (tame.execute entry.command ..).begins.duration).trans woken

namespace Stage

/-- Whenever a command of the turtle is started, its animations last as long as before. -/
def KeepsDuration (id : TurtleId) (stage : Stage C M W) (deed : Deed C W) : Prop :=
  ∀ was now, stage.fleet.turtle? id = some was → (stage.next deed).fleet.turtle? id = some now →
    stage.started id deed ≠ [] → now.animation.duration = was.animation.duration

/-- Something holds of all the deeds of a course, each at the stage at which it is done. -/
def Throughout (holds : Stage C M W → Deed C W → Prop) : Stage C M W → List (Deed C W) → Prop
  | _, [] => True
  | stage, deed :: deeds => holds stage deed ∧ Throughout holds (stage.next deed) deeds

omit [Command C] [World W] [WorkMonitor M] in
theorem Opening.duration {start : Stage C M W} (opening : start.Opening) :
    start.fleet.settings.animationDuration % 2 = 0 ∧
      2 ≤ start.fleet.settings.animationDuration := by
  obtain ⟨made, catalog, world⟩ := opening
  rename_i settings monitor fleet
  obtain ⟨sanitized, sane, same⟩ := Fleet.new_eq made
  subst same
  cases even : Settings.evenDuration settings.animationDuration with
  | error fault => simp [Settings.sanitized, even, bind, Except.bind] at sane
  | ok duration =>
    have kept : sanitized.animationDuration = duration := by
      simp only [Settings.sanitized, even, bind, Except.bind, pure, Except.pure] at sane
      cases sane
      rfl
    show sanitized.animationDuration % 2 = 0 ∧ 2 ≤ sanitized.animationDuration
    rw [kept]
    simp only [Settings.evenDuration] at even
    split at even
    · cases even
      omega
    · split at even
      · cases even
        omega
      · cases even

/-- The animations of a turtle last as long as the settings say. -/
theorem duration_of_leads {start last : Stage C M W} {course : List (Deed C W)} {id : TurtleId}
    (booked : start.Booked) (led : start.Leads course last)
    (lasting : start.Throughout (KeepsDuration id) course)
    (two : 2 ≤ start.fleet.settings.animationDuration)
    (timed : ∀ member, start.fleet.members.get? id = some member →
      member.turtle.animation.duration = start.fleet.settings.animationDuration) :
    last.fleet.settings = start.fleet.settings ∧
      ∀ member, last.fleet.members.get? id = some member →
        member.turtle.animation.duration = start.fleet.settings.animationDuration := by
  induction led with
  | rest stage => exact ⟨rfl, timed⟩
  | @step stage last deed deeds whole later ih =>
    obtain ⟨keeps, lastingLater⟩ := lasting
    obtain ⟨settings, _, _⟩ := stage.fleet_next deed whole
    have timedNext : ∀ member, (stage.next deed).fleet.members.get? id = some member →
        member.turtle.animation.duration = stage.fleet.settings.animationDuration := by
      intro now foundNow
      obtain ⟨_, fate, _⟩ := stage.fate_next deed whole id fun other same => booked.audible same
      have keepsHere (was : Member C) (found : stage.fleet.members.get? id = some was)
          (some : stage.started id deed ≠ []) :
          now.turtle.animation.duration = was.turtle.animation.duration :=
        keeps was.turtle now.turtle (by rw [Fleet.turtle?, found]; rfl)
          (by rw [Fleet.turtle?, foundNow]; rfl) some
      rw [foundNow] at fate
      generalize stage.arriving id deed = commands at fate
      generalize stage.started id deed = executed at fate keepsHere
      generalize found : stage.fleet.members.get? id = before at fate
      cases fate with
      | enrolled fresh counted =>
        rw [fresh]
        exact Nat.max_eq_left (by omega)
      | tookIn untimed member commands => exact timed member found
      | refitted untimed member same =>
        rw [← timed member found]
        exact congrArg Animation.duration same
      | @ticked member served early late _ _ executed _ _ _ serves =>
        rw [← timed member found]
        cases executed with
        | nil => exact serves.duration (.inl rfl)
        | cons first others =>
          exact keepsHere member found (List.cons_ne_nil first others)
    rw [← settings] at two timedNext ⊢
    exact ih (booked.next whole) lastingLater two timedNext

theorem Opening.paced {start last : Stage C M W} {course : List (Deed C W)} {id : TurtleId}
    (opening : start.Opening) (led : start.Leads course last)
    (lasting : start.Throughout (KeepsDuration id) course) {member : Member C}
    (found : last.fleet.members.get? id = some member) :
    member.turtle.animation.duration = start.fleet.settings.animationDuration :=
  (duration_of_leads (.of_leads opening (.rest start)) led lasting opening.duration.2
    (by simp [opening.members])).2 member found

/-- Tame commands keep the pace of their turtles. -/
theorem keepsDuration_of_tame (tame : Command.Tame C W) {stage : Stage C M W}
    (booked : stage.Booked) {deed : Deed C W} (whole : ¬ stage.Breaks deed.perform)
    (id : TurtleId) : KeepsDuration id stage deed := by
  intro was now foundWas foundNow begins
  obtain ⟨before, known, rfl⟩ := Option.map_eq_some_iff.mp foundWas
  obtain ⟨after, knownAfter, rfl⟩ := Option.map_eq_some_iff.mp foundNow
  obtain ⟨_, fate, _⟩ := stage.fate_next deed whole id fun other same => booked.audible same
  rw [known, knownAfter] at fate
  generalize stage.arriving id deed = commands at fate
  generalize stage.started id deed = executed at fate begins
  cases fate with
  | tookIn untimed => rfl
  | refitted untimed _ same => exact congrArg Animation.duration same
  | ticked timed serves => exact serves.duration (.inr tame)

theorem throughout_keepsDuration (tame : Command.Tame C W) {start last : Stage C M W}
    {course : List (Deed C W)} (booked : start.Booked) (led : start.Leads course last)
    (id : TurtleId) : start.Throughout (KeepsDuration id) course := by
  induction led with
  | rest stage => trivial
  | step whole later ih =>
    exact ⟨keepsDuration_of_tame tame booked whole id, ih (booked.next whole)⟩

/-! ### The schedule -/

/-- Tame commands, and all standard ones are, are answered by the schedule of the settings. -/
theorem schedule_of_tame (tame : Command.Tame C W) {start stage : Stage C M W}
    {course : List (Deed C W)} (opening : start.Opening)
    (fits : start.fleet.settings.animationDuration < word32) (led : start.Leads course stage)
    {id : TurtleId} {arrivals : TurtleId → List (Submitter × C)} {nanos : TurtleId → Nat}
    {record : ExecutedCommand} (listed : record ∈ stage.started id (.tick arrivals nanos)) :
    ∃ now : Member C, (stage.next (.tick arrivals nanos)).fleet.members.get? id = some now ∧
      (now.turtle.animation.playing = false →
        record.AnsweredBy (stage.publishedIn (now.handle id) (.tick arrivals nanos))) ∧
      (now.turtle.animation.playing = true →
        (stage.next (.tick arrivals nanos)).AnswersAfter (now.handle id) record
          (Animation.span now.turtle.animation.kind start.fleet.settings.animationDuration)) := by
  have lasting := throughout_keepsDuration tame (.of_leads opening (.rest start)) led id
  obtain ⟨was, now, found, after, once, answered⟩ :=
    (Booked.of_leads opening led).answered_of_started listed
  rw [opening.paced led lasting found, Animation.lag_eq_span opening.duration.2] at answered
  exact ⟨now, after, (answered (once tame)).1, fun plays => (answered (once tame)).2 plays fits⟩

/-- The schedule of the responses. Between the deeds of a course a turtle has a response that is
held back exactly while it is animated. A command that changes the animation by at most one begin is
answered within the tick that starts it if it leaves the turtle still, and otherwise after as many
further ticks as the animation plays at the pace of its turtle. That is the pace of the settings as
long as no command of the turtle has changed it. -/
theorem response_schedule {start stage : Stage C M W} {course : List (Deed C W)} {duration : Nat}
    (opening : start.Opening) (configured : start.fleet.settings.animationDuration = duration)
    (led : start.Leads course stage) (id : TurtleId) :
    (duration % 2 = 0 ∧ 2 ≤ duration) ∧
    stage.fleet.hasPending id = (stage.fleet.turtle? id).any (·.animation.playing) ∧
    ∀ arrivals nanos, ∀ record ∈ stage.started id (.tick arrivals nanos),
      ∃ was now : Member C, stage.fleet.members.get? id = some was ∧
        (stage.next (.tick arrivals nanos)).fleet.members.get? id = some now ∧
        (was.turtle.animation.tick.2.BeginsOnce now.turtle.animation →
          (now.turtle.animation.playing = false →
            record.AnsweredBy (stage.publishedIn (now.handle id) (.tick arrivals nanos))) ∧
          (now.turtle.animation.playing = true → was.turtle.animation.duration < word32 →
            (stage.next (.tick arrivals nanos)).AnswersAfter (now.handle id) record
                (Animation.lag now.turtle.animation.kind was.turtle.animation.duration) ∧
              (start.Throughout (KeepsDuration id) course →
                was.turtle.animation.duration = duration ∧
                  Animation.lag now.turtle.animation.kind was.turtle.animation.duration =
                    Animation.span now.turtle.animation.kind duration))) := by
  have booked := Booked.of_leads opening led
  subst configured
  refine ⟨opening.duration, booked.hasPending_eq id, fun arrivals nanos record listed => ?_⟩
  obtain ⟨was, now, found, after, _, answered⟩ := booked.answered_of_started listed
  refine ⟨was, now, found, after, fun once => ⟨(answered once).1, fun plays fits =>
    ⟨(answered once).2 plays fits, fun lasting => ?_⟩⟩⟩
  rw [opening.paced led lasting found]
  exact ⟨rfl, Animation.lag_eq_span opening.duration.2 _⟩

/-- A turtle that is asked to turn and then for its fuel. -/
def turningCourse : List (Deed TurtleCommand MemoryWorld) :=
  [.register Sample.scout, .submit "scout" (.turn .left), .submit "scout" .getFuelLevel]

def turned (id : Nat) : ExecutedCommand :=
  { turtleId := "scout", id, command := "turn_left", success := true }

theorem response_schedule_turningCourse :
    Sample.stage.Opening ∧ Sample.stage.fleet.settings.animationDuration = 2 ∧
      Sample.stage.Leads turningCourse (Sample.stage.run turningCourse) ∧
      Sample.stage.Throughout (KeepsDuration "scout") turningCourse ∧
      (Sample.stage.run turningCourse).started "scout" Sample.tick = [turned 1] ∧
      ((Sample.stage.run turningCourse).next Sample.tick).AnswersAfter ⟨"scout", 0⟩ (turned 1)
        (Animation.span .turnLeft 2) := by
  have led := leads_run Sample.stage turningCourse
  have lasting : Sample.stage.Throughout (KeepsDuration "scout") turningCourse :=
    throughout_keepsDuration TurtleCommand.tame (.of_leads Sample.opening (.rest _)) led "scout"
  have started : (Sample.stage.run turningCourse).started "scout" Sample.tick = [turned 1] := by rfl
  refine ⟨Sample.opening, rfl, led, lasting, started, ?_⟩
  obtain ⟨_, _, schedule⟩ := response_schedule Sample.opening rfl led "scout"
  obtain ⟨was, now, found, after, once⟩ := schedule (fun _ => []) (fun _ => 0) (turned 1)
    (by rw [← Sample.tick, started]; exact List.mem_singleton_self _)
  have before : some was.turtle.animation = some { kind := .none, progress := 0, duration := 2 } :=
    (congrArg (Option.map fun member : Member _ => member.turtle.animation) found).symm
  have left : some now.turtle.animation = some { kind := .turnLeft, progress := 0, duration := 2 } :=
    (congrArg (Option.map fun member : Member _ => member.turtle.animation) after).symm
  have handle : some now.registration = some 0 :=
    (congrArg (Option.map fun member : Member _ => member.registration) after).symm
  rw [Option.some.inj before, Option.some.inj left, Member.handle, Option.some.inj handle] at once
  obtain ⟨answers, paced⟩ := (once (.inr ⟨.turnLeft, rfl⟩)).2 rfl (by decide)
  rw [(paced lasting).2] at answers
  exact answers

/-- A standard command, or one that gives its turtle another pace. -/
inductive PacedCommand where
  | pace (duration : Nat)
  | standard (command : TurtleCommand)

instance : Command PacedCommand where
  name
    | .pace _ => "pace"
    | .standard command => Command.name command
  execute command context := do
    match command with
    | .pace duration =>
      Action.modifyTurtle ({ · with animation := .idle duration })
      return []
    | .standard command => Command.execute command context

/-- A fleet of which the settings say that animations last for eight ticks. -/
def unhurried : Stage PacedCommand WorkBudget MemoryWorld :=
  { fleet := { settings := {}, monitor := .unlimited }, world := Sample.stage.world }

/-- A turtle that turns once it has taken up a pace of three ticks. -/
def hastyCourse : List (Deed PacedCommand MemoryWorld) :=
  [.register Sample.scout, .submit "scout" (.pace 3), .submit "scout" (.standard (.turn .left)),
    Sample.tick]

/-- A fleet in a world in which the next removal breaks off. -/
def clinging : Stage TurtleCommand WorkBudget RehearsalWorld :=
  { fleet := Sample.fleet
    world := ({ memory := Sample.stage.world } : RehearsalWorld).breakNext .remove "out of order" }

def turningAway : Stage TurtleCommand WorkBudget RehearsalWorld :=
  (clinging.next (.register Sample.scout)).next (.submit "scout" (.turn .left))

/-- The schedule of the settings is not kept where a command has set another pace: the response to the
turn goes out at the third tick, not at the eighth. Nor is it kept where the world breaks off the
removal of the turtle: the turtle is gone, and the response does not go out. -/
theorem other_schedules_hastyCourse :
    (unhurried.Opening ∧ unhurried.fleet.settings.animationDuration = 8 ∧
      unhurried.Leads hastyCourse (unhurried.run hastyCourse) ∧
      (unhurried.run hastyCourse).started "scout" Sample.tick = [turned 2] ∧
      (∃ was now : Member PacedCommand,
        (unhurried.run hastyCourse).fleet.members.get? "scout" = some was ∧
        ((unhurried.run hastyCourse).next Sample.tick).fleet.members.get? "scout" = some now ∧
        was.turtle.animation.tick.2.begin .turnLeft = .ok now.turtle.animation) ∧
      (turned 2).AnsweredBy ((unhurried.run (hastyCourse ++ [Sample.tick, Sample.tick, Sample.tick])
        ).publishedIn ⟨"scout", 0⟩ Sample.tick) ∧
      ¬ ((unhurried.run hastyCourse).next Sample.tick).AnswersAfter ⟨"scout", 0⟩ (turned 2)
        (Animation.span .turnLeft 8)) ∧
    (clinging.Opening ∧ clinging.fleet.settings.animationDuration = 2 ∧
      clinging.Leads [.register Sample.scout, .submit "scout" (.turn .left)] turningAway ∧
      turningAway.started "scout" Sample.tick = [turned 1] ∧
      (turningAway.next Sample.tick).fleet.hasPending "scout" = true ∧
      (turningAway.next Sample.tick).publishedIn ⟨"scout", 0⟩ (.remove "scout") = [] ∧
      ((turningAway.next Sample.tick).next (.remove "scout")).fleet.turtle? "scout" = none) := by
  have answer : (unhurried.run (hastyCourse ++ [Sample.tick, Sample.tick, Sample.tick])).publishedIn
      ⟨"scout", 0⟩ Sample.tick = [Response.ofResult 2 (.ok [])] := by rfl
  refine ⟨⟨?_, rfl, leads_run _ _, by rfl, ⟨_, _, rfl, rfl, by rfl⟩, ?_, ?_⟩,
    ⟨?_, rfl, ?_, by rfl, by rfl, by rfl, by rfl⟩⟩
  · have made : Fleet.new {} WorkBudget.unlimited = .ok unhurried.fleet := rfl
    exact .made made .standard Sample.stage.world
  · rw [answer]
    exact ⟨_, List.mem_singleton_self _, rfl, rfl⟩
  · intro answers
    obtain ⟨silent, _⟩ :=
      answers [Sample.tick, Sample.tick, Sample.tick] _ (leads_run _ _) rfl (by decide)
    have early : ((unhurried.run hastyCourse).next Sample.tick).published ⟨"scout", 0⟩
        [Sample.tick, Sample.tick, Sample.tick] = [Response.ofResult 2 (.ok [])] := by rfl
    rw [early] at silent
    cases silent
  · have made : Fleet.new { animationDuration := 2 } WorkBudget.unlimited = .ok Sample.fleet := rfl
    exact .made made .standard clinging.world
  · refine .step ?_ (.step ?_ (.rest _)) <;>
    · rintro ⟨fault, left, broken⟩
      cases broken

end Stage

end TurtleFleet
