import TurtleFleet.Proofs.Responses
import TurtleFleet.Proofs.Tame

/-! When a response goes out. A command that leaves its turtle still is answered within the tick that
starts it. Otherwise its response is due after as many further ticks as the animation plays, whatever
the work monitor says and wherever the turtle stands, and until then the turtle starts nothing else.
The invariant counts the ticks that are left. -/

namespace TurtleFleet

variable {C M W : Type}

namespace Animation

/-- The ticks for which an animation plays; a short wait is already half over when it begins. -/
def span (kind : AnimationKind) (duration : Nat) : Nat :=
  if kind = .shortWait then duration - duration / 2 else duration

/-- The ticks after which an animation is over that begins. Even without a duration it takes one. -/
def lag (kind : AnimationKind) (duration : Nat) : Nat := max 1 (span kind duration)

theorem lag_eq_span {duration : Nat} (two : 2 ≤ duration) (kind : AnimationKind) :
    lag kind duration = span kind duration := by
  have lasting : 1 ≤ span kind duration := by
    unfold span
    split <;> omega
  exact Nat.max_eq_right lasting

/-- An animation that plays for so many ticks more, the last of which ends it. One tick is left to an
animation that has reached its duration already. -/
structure Lasts (animation : Animation) (ticks : Nat) : Prop where
  plays : animation.playing = true
  left : animation.progress + ticks = max (animation.progress + 1) animation.duration
  fits : animation.duration < word32

theorem Lasts.ends {animation : Animation} (lasts : animation.Lasts 1) :
    animation.tick.1 = false := by
  have reached : animation.duration ≤ animation.progress + 1 := by
    have left := lasts.left
    omega
  rw [tick_of_last lasts.plays lasts.fits reached]

/-- Every earlier tick leaves one tick less. -/
theorem Lasts.goesOn {animation : Animation} {ticks : Nat} (lasts : animation.Lasts (ticks + 1))
    (more : 0 < ticks) : animation.tick.1 = true ∧ animation.tick.2.Lasts ticks := by
  have left := lasts.left
  have unfinished : animation.progress + 1 < animation.duration := by omega
  have later : animation.progress + 1 + ticks =
      max (animation.progress + 1 + 1) animation.duration := by omega
  rw [tick_of_more lasts.plays lasts.fits unfinished]
  exact ⟨rfl, lasts.plays, later, lasts.fits⟩

/-- An animation that a command began is over after its lag. -/
theorem Lasts.of_begin {before after : Animation} (still : before.playing = false)
    (plays : after.playing = true) (once : before.BeginsOnce after)
    (fits : before.duration < word32) : after.Lasts (lag after.kind before.duration) := by
  obtain same | ⟨kind, begun⟩ := once
  · rw [same, still] at plays
    cases plays
  by_cases nothing : kind = .none
  · subst nothing
    have left : after = before.reset := by
      simpa [begin, still] using begun.symm
    rw [left] at plays
    cases plays
  · rw [begin_of_still still nothing] at begun
    cases begun
    refine ⟨plays, ?_, fits⟩
    simp only [lag, span, start]
    split <;> omega

end Animation

/-- A member whose held response is due in so many ticks. -/
structure Member.Due (member : Member C) (response : Response) (ticks : Nat) : Prop where
  held : member.pending = some response
  lasts : member.turtle.animation.Lasts ticks

namespace Member.Due

variable {member : Member C} {response : Response} {ticks : Nat}

/-- The response goes out at the last tick. -/
theorem delivery (due : member.Due response 1) : member.delivery = some response := by
  simp [Member.delivery, due.lasts.plays, due.lasts.ends, due.held]

theorem woken (due : member.Due response (ticks + 1)) (more : 0 < ticks) (id : TurtleId)
    (time : Nat) :
    (member.woken id time).Due response ticks ∧ member.delivery = none := by
  obtain ⟨goesOn, lasts⟩ := due.lasts.goesOn more
  constructor
  · rw [Member.woken_eq]
    refine ⟨?_, lasts⟩
    simp [goesOn, due.held]
  · simp [Member.delivery, goesOn]

end Member.Due

variable [Command C] [World W] [WorkMonitor M]

/-- A visit of a member whose response is not due yet starts nothing. -/
theorem Round.Serves.of_due {context : Context} {movers : List TurtleId} {id : TurtleId}
    {member served : Member C} {world left : W} {answers : List Response}
    {executed : List ExecutedCommand}
    (serves : Serves context movers id member world answers executed served left)
    {response : Response} {ticks : Nat} (due : member.Due response (ticks + 1))
    (more : 0 < ticks) : answers = [] ∧ executed = [] ∧ served.Due response ticks := by
  obtain ⟨later, nothing⟩ := due.woken more id context.time
  cases serves with
  | waits => exact ⟨by rw [nothing]; rfl, rfl, later⟩
  | starts still waiting ran =>
    rw [later.lasts.plays] at still
    cases still

/-- The last visit publishes the response first. -/
theorem Round.Serves.of_due_one {context : Context} {movers : List TurtleId} {id : TurtleId}
    {member served : Member C} {world left : W} {answers : List Response}
    {executed : List ExecutedCommand}
    (serves : Serves context movers id member world answers executed served left)
    {response : Response} (due : member.Due response 1) : ∃ others, answers = response :: others := by
  cases serves with
  | waits => exact ⟨[], by rw [due.delivery]; rfl⟩
  | starts still waiting ran => exact ⟨_, by rw [due.delivery]; rfl⟩

def ExecutedCommand.AnsweredBy (record : ExecutedCommand) (responses : List Response) : Prop :=
  ∃ response ∈ responses, response.id = record.id ∧ response.success = record.success

namespace Stage

def ticks (course : List (Deed C W)) : Nat := course.countP Deed.isTick

/-- The response of a command is due in so many ticks. Until then, for as long as the registration
is in force, it is held back, nothing is published for the registration and no further command is
started; the last of those ticks publishes it, and so does an earlier removal of the turtle. -/
def AnswersAfter (stage : Stage C M W) (handle : Submitter) (record : ExecutedCommand)
    (lag : Nat) : Prop :=
  ∀ later last, stage.Leads later last → (last.fleet.holder? handle).isSome → ticks later < lag →
    stage.published handle later = [] ∧
    collect (started handle.turtleId) stage later = [] ∧
    (∃ member, last.fleet.holder? handle = some member ∧
      record.AnsweredBy member.pending.toList) ∧
    (ticks later + 1 = lag → ∀ arrivals nanos,
      record.AnsweredBy (last.publishedIn handle (.tick arrivals nanos))) ∧
    (¬ last.Breaks (Deed.remove (C := C) (W := W) handle.turtleId).perform →
      record.AnsweredBy (last.publishedIn handle (.remove handle.turtleId)))

variable {stage : Stage C M W} {handle : Submitter} {member : Member C} {response : Response}

theorem fate_of_held (booked : stage.Booked) {deed : Deed C W} (whole : ¬ stage.Breaks deed.perform)
    (held : stage.fleet.holder? handle = some member) :
    Fate stage deed handle.turtleId (some member) (stage.arriving handle.turtleId deed)
      (stage.publishedIn handle deed) (stage.started handle.turtleId deed)
      ((stage.next deed).fleet.members.get? handle.turtleId) := by
  obtain ⟨found, _⟩ := Fleet.holder?_eq_some_iff.mp held
  obtain ⟨answers, fate, heardAfter⟩ :=
    stage.fate_next deed whole handle.turtleId fun other same => booked.audible same
  rw [publishedIn_of_heard held heardAfter, ← found]
  exact fate

omit [Command C] [World W] [WorkMonitor M] in
/-- A member that takes the place of another one of the same registration is held by its handle. -/
theorem holder?_of_same {after : Stage C M W} (held : stage.fleet.holder? handle = some member)
    {now : Member C} (found : after.fleet.members.get? handle.turtleId = some now)
    (same : now.registration = member.registration) : after.fleet.holder? handle = some now := by
  obtain ⟨_, own⟩ := Fleet.holder?_eq_some_iff.mp held
  refine Fleet.holder?_eq_some_iff.mpr ⟨found, ?_⟩
  rw [← own, Member.handle, same]
  rfl

/-- A deed before the last tick leaves the response held back. -/
theorem due_next (booked : stage.Booked) {deed : Deed C W} (whole : ¬ stage.Breaks deed.perform)
    (held : stage.fleet.holder? handle = some member) {ticks : Nat}
    (due : member.Due response ticks) (early : deed.isTick = true → 1 < ticks)
    (inForce : ((stage.next deed).fleet.holder? handle).isSome) :
    ∃ now, (stage.next deed).fleet.holder? handle = some now ∧
      now.Due response (if deed.isTick then ticks - 1 else ticks) ∧
      stage.publishedIn handle deed = [] ∧ stage.started handle.turtleId deed = [] := by
  have fate := fate_of_held booked whole held
  generalize stage.arriving handle.turtleId deed = commands at fate
  generalize stage.publishedIn handle deed = answers at fate ⊢
  generalize stage.started handle.turtleId deed = executed at fate ⊢
  generalize after : (stage.next deed).fleet.members.get? handle.turtleId = later at fate
  cases fate with
  | tookIn untimed =>
    rw [untimed]
    exact ⟨_, holder?_of_same held after rfl, ⟨due.held, due.lasts⟩, rfl, rfl⟩
  | refitted untimed _ same =>
    rw [untimed]
    exact ⟨_, holder?_of_same held after rfl, ⟨due.held, same ▸ due.lasts⟩, rfl, rfl⟩
  | @ticked _ served first late _ _ _ _ _ timed serves =>
    rw [timed]
    obtain ⟨rest, split⟩ : ∃ rest, ticks = rest + 1 := ⟨ticks - 1, by have := early timed; omega⟩
    subst split
    have taken : (member.takeIn first).Due response (rest + 1) := ⟨due.held, due.lasts⟩
    obtain ⟨silent, idle, dueLater⟩ := serves.of_due taken (by have := early timed; omega)
    exact ⟨_, holder?_of_same held after serves.registration, ⟨dueLater.held, dueLater.lasts⟩,
      silent, idle⟩
  | released =>
    simp [Fleet.holder?, after] at inForce

theorem publishedIn_of_due_one (booked : stage.Booked)
    (held : stage.fleet.holder? handle = some member) (due : member.Due response 1)
    (arrivals : TurtleId → List (Submitter × C)) (nanos : TurtleId → Nat) :
    response ∈ stage.publishedIn handle (.tick arrivals nanos) := by
  have whole := stage.whole_tick arrivals nanos
  have fate := fate_of_held booked whole held
  generalize stage.arriving handle.turtleId _ = commands at fate
  generalize stage.publishedIn handle _ = answers at fate ⊢
  generalize stage.started handle.turtleId _ = executed at fate
  generalize Keyed.get? _ _ = later at fate
  cases fate with
  | tookIn untimed => cases untimed
  | refitted untimed _ same => cases untimed
  | released untimed => cases untimed
  | @ticked _ _ first _ _ _ _ _ _ _ serves =>
    have taken : (member.takeIn first).Due response 1 := ⟨due.held, due.lasts⟩
    obtain ⟨others, answered⟩ := serves.of_due_one taken
    rw [answered]
    exact List.mem_cons_self

theorem publishedIn_of_removal (booked : stage.Booked)
    (held : stage.fleet.holder? handle = some member) (pending : member.pending = some response)
    (whole : ¬ stage.Breaks (Deed.remove (C := C) (W := W) handle.turtleId).perform) :
    response ∈ stage.publishedIn handle (.remove handle.turtleId) := by
  have fate := fate_of_held booked whole held
  rw [stage.get?_next_remove handle.turtleId whole] at fate
  generalize stage.arriving handle.turtleId _ = commands at fate
  generalize stage.publishedIn handle _ = answers at fate ⊢
  generalize stage.started handle.turtleId _ = executed at fate
  cases fate with
  | released untimed => simp [pending]

theorem answersAfter_of_due (booked : stage.Booked)
    (known : handle.registration < stage.fleet.registrations)
    (held : stage.fleet.holder? handle = some member) {lag : Nat} (due : member.Due response lag)
    {record : ExecutedCommand} (id : response.id = record.id)
    (success : response.success = record.success) : stage.AnswersAfter handle record lag := by
  intro later last led inForce few
  induction led generalizing member lag with
  | rest stage =>
    refine ⟨rfl, rfl, ⟨member, held, response, by simp [due.held], id, success⟩, ?_, ?_⟩
    · intro final arrivals nanos
      have one : lag = 1 := by simpa [ticks] using final.symm
      subst one
      exact ⟨response, publishedIn_of_due_one booked held due arrivals nanos, id, success⟩
    · intro whole
      exact ⟨response, publishedIn_of_removal booked held due.held whole, id, success⟩
  | @step stage last deed deeds whole later ih =>
    have knownNext := Nat.lt_of_lt_of_le known (stage.fleet_next deed whole).2.2
    have inForceNext : ((stage.next deed).fleet.holder? handle).isSome := by
      rcases heldNext : (stage.next deed).fleet.holder? handle with _ | now
      · rw [(booked.next whole).gone later heldNext knownNext] at inForce
        cases inForce
      · rfl
    have counted : ticks (deed :: deeds) = ticks deeds + if deed.isTick then 1 else 0 :=
      List.countP_cons
    obtain ⟨now, heldNow, dueNow, silent, idle⟩ := due_next booked whole held due
      (fun timed => by rw [counted, timed] at few; simp at few; omega) inForceNext
    have fewNext : ticks deeds < if deed.isTick then lag - 1 else lag := by
      cases timed : deed.isTick <;> simp [counted, timed] at few ⊢ <;> omega
    obtain ⟨published, started, pending, final, removal⟩ :=
      ih (booked.next whole) knownNext heldNow dueNow inForce fewNext
    refine ⟨?_, ?_, pending, ?_, removal⟩
    · rw [Stage.published, collect, silent]
      exact published
    · rw [collect, idle]
      exact started
    · intro same
      refine final ?_
      cases timed : deed.isTick <;> simp [counted, timed] at same ⊢ <;> omega

/-! ### Responses to started commands -/

omit [Command C] [World W] [WorkMonitor M] in
/-- Between deeds a response is held back exactly while its turtle is animated. -/
theorem Booked.hasPending_eq (booked : stage.Booked) (id : TurtleId) :
    stage.fleet.hasPending id = (stage.fleet.turtle? id).any (·.animation.playing) := by
  rcases found : stage.fleet.members.get? id with _ | member
  · simp [Fleet.hasPending, Fleet.turtle?, found]
  · obtain ⟨ran, waiting, published, ledger⟩ := booked.ledger found
    simp [Fleet.hasPending, Fleet.turtle?, found, ledger.animated]

/-- A command that begins one animation at most is answered at once if it leaves its turtle still, and
otherwise when the animation is over. -/
theorem Booked.answered_of_started (booked : stage.Booked) {id : TurtleId}
    {arrivals : TurtleId → List (Submitter × C)} {nanos : TurtleId → Nat} {record : ExecutedCommand}
    (listed : record ∈ stage.started id (.tick arrivals nanos)) :
    ∃ was now : Member C, stage.fleet.members.get? id = some was ∧
      (stage.next (.tick arrivals nanos)).fleet.members.get? id = some now ∧
      (Command.Tame C W → was.turtle.animation.tick.2.BeginsOnce now.turtle.animation) ∧
      (was.turtle.animation.tick.2.BeginsOnce now.turtle.animation →
        (now.turtle.animation.playing = false →
          record.AnsweredBy (stage.publishedIn (now.handle id) (.tick arrivals nanos))) ∧
        (now.turtle.animation.playing = true → was.turtle.animation.duration < word32 →
          (stage.next (.tick arrivals nanos)).AnswersAfter (now.handle id) record
            (Animation.lag now.turtle.animation.kind was.turtle.animation.duration))) := by
  have whole := stage.whole_tick arrivals nanos
  obtain ⟨answers, fate, heardAfter⟩ :=
    stage.fate_next (.tick arrivals nanos) whole id fun other same => booked.audible same
  generalize stage.arriving id _ = commands at fate
  generalize stage.started id _ = executed at fate listed
  generalize found : stage.fleet.members.get? id = before at fate
  generalize after : (stage.next (.tick arrivals nanos)).fleet.members.get? id = later at fate
  cases fate with
  | absent => cases listed
  | enrolled fresh counted => cases listed
  | tookIn untimed => cases untimed
  | refitted untimed _ same => cases untimed
  | released untimed => cases untimed
  | @ticked was served early late _ _ _ context movers _ serves =>
    cases serves with
    | waits => cases listed
    | @starts entry rest result scene still waiting ran =>
      obtain rfl := List.mem_singleton.mp listed
      have id_eq : (Response.ofResult entry.id result).id = entry.id := by cases result <;> rfl
      have success_eq : (Response.ofResult entry.id result).success = result.isOk := by
        cases result <;> rfl
      have stillBefore : was.turtle.animation.tick.2.playing = false := by
        simpa [Member.woken_eq] using still
      refine ⟨_, _, rfl, rfl, fun tame => ?_, fun once => ⟨fun halts => ?_, fun plays fits => ?_⟩⟩
      · have kept := congrArg Prod.snd ran ▸ (tame.execute entry.command ..).begins
        rw [Member.woken_eq] at kept
        exact kept
      · have halts : scene.turtle.animation.playing = false := halts
        have published : stage.publishedIn (was.handle id) (.tick arrivals nanos) = _ :=
          publishedIn_of_heard (Fleet.holder?_of_handle found) heardAfter
        refine ⟨Response.ofResult entry.id result, ?_, id_eq, success_eq⟩
        show _ ∈ stage.publishedIn (was.handle id) (.tick arrivals nanos)
        rw [published, halts]
        exact List.mem_append_right _ (List.mem_singleton_self _)
      · have plays : scene.turtle.animation.playing = true := plays
        rw [← Animation.duration_tick] at fits ⊢
        have lasts := Animation.Lasts.of_begin stillBefore plays once fits
        exact answersAfter_of_due (booked.next whole) ((booked.next whole).known after)
          (Fleet.holder?_of_handle after) ⟨if_pos plays, lasts⟩ id_eq success_eq

end Stage

end TurtleFleet
