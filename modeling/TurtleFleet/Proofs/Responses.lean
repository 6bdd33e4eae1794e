import TurtleFleet.Proofs.Fate
import TurtleFleet.Proofs.Memory

/-! Every accepted command is answered exactly once, and the answers go out in the order of the
submissions. The invariant is a ledger for each registration: the commands that ran are those whose
responses went out or are held back, all others are queued, and the numbers run on from the ones to
the others. -/

namespace TurtleFleet

variable {C M W : Type}

theorem id_lt_of_mem_numbered {earlier : Nat} {commands : List C} {entry : QueueEntry C}
    (listed : entry ∈ numbered earlier commands) : entry.id < word64 := by
  have counted : entry.id ∈ (numbered earlier commands).map (·.id) := List.mem_map_of_mem listed
  rw [map_id_numbered] at counted
  obtain ⟨index, _, same⟩ := List.mem_map.mp counted
  rw [← same]
  exact submissionNumber_lt index

/-! ### The ledger of a registration -/

/-- The commands of a registration that ran and those that wait, beside what was published. -/
structure Ledger (member : Member C) (ran waiting : List C) (published : List Response) : Prop where
  isOpen : member.queue.isOpen = true
  next : member.queue.nextId = submissionNumber (ran ++ waiting).length
  queued : member.queue.entries = numbered ran.length waiting
  answered : (published ++ member.pending.toList).map (·.id) = (numbered 0 ran).map (·.id)
  held : ∀ response ∈ member.pending, response.Genuine
  animated : member.pending.isSome = member.turtle.animation.playing

namespace Ledger

variable {member : Member C} {ran waiting : List C} {published : List Response}

theorem opened (registration : Nat) {turtle : Turtle} (still : turtle.animation.playing = false) :
    Ledger { registration, turtle, queue := {} } ([] : List C) [] [] where
  isOpen := rfl
  next := rfl
  queued := rfl
  answered := rfl
  held := nofun
  animated := still.symm

theorem audible (ledger : Ledger member ran waiting published) : member.Audible where
  held := ledger.held
  queued entry listed := id_lt_of_mem_numbered (ledger.queued ▸ listed)
  next := by
    rw [ledger.next]
    exact submissionNumber_lt _

/-- Published, held and queued numbers are those of all accepted commands. -/
theorem numbers (ledger : Ledger member ran waiting published) :
    (published ++ member.pending.toList).map (·.id) ++ member.queue.entries.map (·.id) =
      (numbered 0 (ran ++ waiting)).map (·.id) := by
  rw [ledger.answered, ledger.queued, ← List.map_append, numbered_append, Nat.zero_add]

theorem takeIn (ledger : Ledger member ran waiting published) (commands : List C) :
    Ledger (member.takeIn commands) ran (waiting ++ commands) published := by
  rw [Member.takeIn_open ledger.next ledger.isOpen]
  refine { isOpen := ledger.isOpen, next := ?_, queued := ?_, answered := ledger.answered,
           held := ledger.held, animated := ledger.animated }
  · simp [Nat.add_assoc]
  · rw [ledger.queued, numbered_append, List.length_append]

theorem refit (ledger : Ledger member ran waiting published) {turtle : Turtle}
    (same : turtle.animation = member.turtle.animation) :
    Ledger { member with turtle } ran waiting published :=
  { ledger with animated := ledger.animated.trans (congrArg Animation.playing same.symm) }

/-- When the animation ends, the held response goes out. -/
theorem woken (ledger : Ledger member ran waiting published) (id : TurtleId) (time : Nat) :
    Ledger (member.woken id time) ran waiting (published ++ member.delivery.toList) := by
  have split := member.delivery_append id time
  rw [Member.woken_eq] at split ⊢
  refine { isOpen := ledger.isOpen, next := ledger.next, queued := ledger.queued, answered := ?_,
           held := ?_, animated := ?_ }
  · rw [List.append_assoc, split]
    exact ledger.answered
  · intro response given
    have before : response ∈ member.pending.toList := by
      rw [← split]
      exact List.mem_append_right _ (Option.mem_toList.mpr given)
    exact ledger.held response (Option.mem_toList.mp before)
  · show Option.isSome (if _ then none else member.pending) = member.turtle.animation.tick.2.playing
    rw [Animation.playing_tick]
    cases plays : member.turtle.animation.playing with
    | false =>
      have still : member.turtle.animation.tick.1 = false := by rw [Animation.tick_of_still plays]
      simpa [still, plays] using ledger.animated
    | true => cases goesOn : member.turtle.animation.tick.1 <;> simp [ledger.animated, plays]

/-- A command that runs is the first of those that wait, and its response is published or held. -/
theorem started (ledger : Ledger member ran waiting published)
    (still : member.turtle.animation.playing = false) {entry : QueueEntry C}
    {rest : List (QueueEntry C)} (next : member.queue.entries = entry :: rest) (turtle : Turtle)
    (result : Except Stop (List Json)) :
    ∃ later, waiting = entry.command :: later ∧
      Ledger
        { member with
          turtle
          queue := { member.queue with entries := rest }
          pending := if turtle.animation.playing then some (Response.ofResult entry.id result)
            else member.pending }
        (ran ++ [entry.command]) later
        (published ++
          if turtle.animation.playing then [] else [Response.ofResult entry.id result]) := by
  have free : member.pending = none := by
    simpa [still] using ledger.animated
  have queued := ledger.queued
  rw [next] at queued
  cases waiting with
  | nil => simp [numbered] at queued
  | cons command later =>
    obtain ⟨first, others⟩ := List.cons.inj queued
    have id : (Response.ofResult entry.id result).id = submissionNumber ran.length := by
      rw [first]
      cases result <;> rfl
    have answered : published.map (·.id) = (numbered 0 ran).map (·.id) := by
      simpa [free] using ledger.answered
    have command_eq : entry.command = command := by rw [first]
    refine ⟨later, by rw [command_eq], ?_⟩
    refine { isOpen := ledger.isOpen, next := ?_, queued := ?_, answered := ?_, held := ?_,
             animated := ?_ }
    · rw [ledger.next, command_eq]
      simp
    · rw [others]
      simp
    · have numbers : (numbered 0 (ran ++ [entry.command])).map (·.id) =
          published.map (·.id) ++ [submissionNumber ran.length] := by
        rw [numbered_append, List.map_append, ← answered, Nat.zero_add]
        rfl
      rw [numbers]
      cases turtle.animation.playing <;> simp [free, id]
    · intro response given
      have genuine : (Response.ofResult entry.id result).Genuine :=
        Response.genuine_ofResult (first ▸ submissionNumber_lt _) result
      cases plays : turtle.animation.playing with
      | false => simp [plays, free] at given
      | true =>
        have same : Response.ofResult entry.id result = response := by simpa [plays] using given
        exact same ▸ genuine
    · cases plays : turtle.animation.playing <;> simp [free]

/-- A visit moves commands from those that wait to those that ran. -/
theorem serves [Command C] [World W] (ledger : Ledger member ran waiting published)
    {context : Context} {movers : List TurtleId} {id : TurtleId} {served : Member C}
    {world left : W} {answers : List Response} {executed : List ExecutedCommand}
    (serves : Round.Serves context movers id member world answers executed served left) :
    ∃ ranNow waitingNow, ranNow ++ waitingNow = ran ++ waiting ∧
      Ledger served ranNow waitingNow (published ++ answers) := by
  have woken := ledger.woken id context.time
  cases serves with
  | waits => exact ⟨ran, waiting, rfl, woken⟩
  | @starts entry rest result scene still next ran_eq =>
    have queue : (member.woken id context.time).queue.entries = entry :: rest := by
      rw [Member.woken_queue, next]
    obtain ⟨later, split, started⟩ := woken.started still queue scene.turtle result
    refine ⟨ran ++ [entry.command], later, by simp [split], ?_⟩
    simpa [List.append_assoc] using started

end Ledger

/-! ### The books along a course -/

variable [Command C] [World W] [WorkMonitor M]

namespace Stage

/-- The commands that a deed submits to a registration that is in force. -/
def acceptedIn (handle : Submitter) (stage : Stage C M W) (deed : Deed C W) : List C :=
  if (stage.fleet.holder? handle).isSome then addressed handle (deed.submissions stage.fleet) else []

/-- The responses that a deed publishes for a registration that is in force. -/
def publishedIn (handle : Submitter) (stage : Stage C M W) (deed : Deed C W) : List Response :=
  if (stage.fleet.holder? handle).isSome then
    (heard handle.turtleId (stage.next deed).signals).drop
      (heard handle.turtleId stage.signals).length
  else []

theorem publishedIn_of_heard {stage : Stage C M W} {deed : Deed C W} {handle : Submitter}
    {member : Member C} {answers : List Response}
    (held : stage.fleet.holder? handle = some member)
    (heardAfter : heard handle.turtleId (stage.next deed).signals =
      heard handle.turtleId stage.signals ++ answers) :
    publishedIn handle stage deed = answers := by
  rw [publishedIn, held, heardAfter, List.drop_left]
  rfl

/-- The commands that a registration accepts during a course. -/
def accepted (handle : Submitter) : Stage C M W → List (Deed C W) → List C :=
  collect (acceptedIn handle)

/-- The responses that are published for a registration during a course. -/
def published (handle : Submitter) : Stage C M W → List (Deed C W) → List Response :=
  collect (publishedIn handle)

/-- The books of a registration, which is in force, is over, or has not begun. -/
inductive Account (stage : Stage C M W) (handle : Submitter) : List C → List Response → Prop where
  | inForce {member : Member C} {ran waiting : List C} {published : List Response}
      (held : stage.fleet.holder? handle = some member)
      (known : handle.registration < stage.fleet.registrations)
      (ledger : Ledger member ran waiting published) :
      Account stage handle (ran ++ waiting) published
  | ended {accepted : List C} {published : List Response}
      (gone : stage.fleet.holder? handle = none)
      (known : handle.registration < stage.fleet.registrations ∨ accepted = [])
      (settled : published.map (·.id) = (numbered 0 accepted).map (·.id)) :
      Account stage handle accepted published

namespace Account

variable {stage : Stage C M W} {handle : Submitter} {accepted : List C} {published : List Response}

omit [Command C] [World W] [WorkMonitor M] in
theorem ledger {member : Member C} (account : Account stage handle accepted published)
    (held : stage.fleet.holder? handle = some member) :
    ∃ ran waiting, accepted = ran ++ waiting ∧ Ledger member ran waiting published := by
  cases account with
  | @inForce _ ran waiting _ same known ledger =>
    cases held.symm.trans same
    exact ⟨ran, waiting, rfl, ledger⟩
  | ended gone known settled =>
    rw [gone] at held
    cases held

omit [Command C] [World W] [WorkMonitor M] in
theorem audible {member : Member C} (account : Account stage handle accepted published)
    (held : stage.fleet.holder? handle = some member) : member.Audible := by
  obtain ⟨ran, waiting, _, ledger⟩ := account.ledger held
  exact ledger.audible

omit [Command C] [World W] [WorkMonitor M] in
theorem settled (account : Account stage handle accepted published)
    (gone : stage.fleet.holder? handle = none) (few : accepted.length < word64) :
    published.map (·.id) = List.range' 1 accepted.length := by
  cases account with
  | inForce held known ledger =>
    rw [gone] at held
    cases held
  | ended _ known settled => rw [settled, map_id_numbered_of_few few]

theorem next_inForce {deed : Deed C W} (whole : ¬ stage.Breaks deed.perform) {member : Member C}
    {ran waiting : List C} (held : stage.fleet.holder? handle = some member)
    (known : handle.registration < stage.fleet.registrations)
    (ledger : Ledger member ran waiting published) :
    Account (stage.next deed) handle (ran ++ waiting ++ acceptedIn handle stage deed)
      (published ++ publishedIn handle stage deed) := by
  obtain ⟨found, own⟩ := Fleet.holder?_eq_some_iff.mp held
  have audible : ∀ other, stage.fleet.members.get? handle.turtleId = some other →
      other.Audible := by
    intro other same
    cases found.symm.trans same
    exact ledger.audible
  obtain ⟨answers, fate, heardAfter⟩ := stage.fate_next deed whole handle.turtleId audible
  have knownAfter := Nat.lt_of_lt_of_le known (stage.fleet_next deed whole).2.2
  have publishedNow := publishedIn_of_heard held heardAfter
  have acceptedNow : acceptedIn handle stage deed = stage.arriving handle.turtleId deed := by
    rw [acceptedIn, held, arriving, found]
    exact congrArg (addressed · _) own.symm
  rw [publishedNow, acceptedNow]
  have inForce {now : Member C} (after : (stage.next deed).fleet.members.get? handle.turtleId =
      some now) (same : now.registration = member.registration) :
      (stage.next deed).fleet.holder? handle = some now := by
    refine Fleet.holder?_eq_some_iff.mpr ⟨after, ?_⟩
    rw [← own, Member.handle, same]
    rfl
  rw [found] at fate
  generalize stage.arriving handle.turtleId deed = commands at fate ⊢
  generalize stage.started handle.turtleId deed = executed at fate
  generalize after : (stage.next deed).fleet.members.get? handle.turtleId = later at fate
  cases fate with
  | tookIn =>
    rw [List.append_assoc, List.append_nil]
    exact .inForce (inForce after rfl) knownAfter (ledger.takeIn commands)
  | refitted _ member same =>
    rw [List.append_nil, List.append_nil]
    exact .inForce (inForce after rfl) knownAfter (ledger.refit same)
  | @ticked _ served early late _ _ _ _ _ _ serves =>
    obtain ⟨ranNow, waitingNow, split, ledgerNow⟩ := (ledger.takeIn early).serves serves
    have all : ran ++ waiting ++ (early ++ late) = ranNow ++ (waitingNow ++ late) := by
      rw [← List.append_assoc ranNow, split]
      simp
    rw [all]
    exact .inForce (inForce after serves.registration) knownAfter (ledgerNow.takeIn late)
  | released =>
    refine .ended ?_ (.inl knownAfter) ?_
    · simp [Fleet.holder?, after]
    · have failed (entries : List (QueueEntry C)) :
          (entries.map fun entry => Response.failure entry.id turtleRemoved).map (·.id) =
            entries.map (·.id) := by
        simp [Response.failure]
      rw [List.append_nil, ← ledger.numbers, ← List.append_assoc, List.map_append, failed]

theorem enrolled_of_gone {deed : Deed C W} (whole : ¬ stage.Breaks deed.perform)
    (gone : stage.fleet.holder? handle = none)
    (audible : ∀ member, stage.fleet.members.get? handle.turtleId = some member → member.Audible)
    {now : Member C} (held : (stage.next deed).fleet.holder? handle = some now) :
    handle.registration = stage.fleet.registrations ∧
      (stage.next deed).fleet.registrations = stage.fleet.registrations + 1 ∧
      Ledger now [] [] [] := by
  obtain ⟨after, own⟩ := Fleet.holder?_eq_some_iff.mp held
  obtain ⟨answers, fate, _⟩ := stage.fate_next deed whole handle.turtleId audible
  have strange {member : Member C} (found : stage.fleet.members.get? handle.turtleId = some member)
      (same : now.registration = member.registration) : False := by
    have inForce : stage.fleet.holder? handle = some member := by
      refine Fleet.holder?_eq_some_iff.mpr ⟨found, ?_⟩
      rw [← own, Member.handle, Member.handle, same]
    rw [gone] at inForce
    cases inForce
  rw [after] at fate
  generalize stage.arriving handle.turtleId deed = commands at fate
  generalize stage.started handle.turtleId deed = executed at fate
  generalize found : stage.fleet.members.get? handle.turtleId = before at fate
  cases fate with
  | @enrolled turtle fresh counted =>
    have registration : handle.registration = stage.fleet.registrations := by rw [← own]; rfl
    have still : turtle.animation.playing = false := by rw [fresh]; rfl
    exact ⟨registration, counted, .opened _ still⟩
  | tookIn _ member => exact (strange found rfl).elim
  | refitted _ member same => exact (strange found rfl).elim
  | ticked timed serves => exact (strange found serves.registration).elim

/-- The books of a registration that is over or has not begun after a deed. -/
theorem next_ended {deed : Deed C W} (whole : ¬ stage.Breaks deed.perform)
    (gone : stage.fleet.holder? handle = none)
    (known : handle.registration < stage.fleet.registrations ∨ accepted = [])
    (settled : published.map (·.id) = (numbered 0 accepted).map (·.id))
    (audible : ∀ member, stage.fleet.members.get? handle.turtleId = some member → member.Audible) :
    Account (stage.next deed) handle (accepted ++ acceptedIn handle stage deed)
      (published ++ publishedIn handle stage deed) := by
  have nothing : acceptedIn handle stage deed = [] ∧ publishedIn handle stage deed = [] := by
    simp [acceptedIn, publishedIn, gone]
  rw [nothing.1, nothing.2, List.append_nil, List.append_nil]
  rcases held : (stage.next deed).fleet.holder? handle with _ | now
  · refine .ended held ?_ settled
    rcases known with begun | unused
    · exact .inl (Nat.lt_of_lt_of_le begun (stage.fleet_next deed whole).2.2)
    · exact .inr unused
  · obtain ⟨registration, counted, opened⟩ := enrolled_of_gone whole gone audible held
    have unused : accepted = [] := by
      rcases known with begun | unused
      · exact absurd begun (by omega)
      · exact unused
    have silent : published = [] := by simpa [unused, numbered] using settled
    rw [unused, silent]
    exact .inForce held (by omega) opened

theorem next (account : Account stage handle accepted published) {deed : Deed C W}
    (whole : ¬ stage.Breaks deed.perform)
    (audible : ∀ member, stage.fleet.members.get? handle.turtleId = some member → member.Audible) :
    Account (stage.next deed) handle (accepted ++ acceptedIn handle stage deed)
      (published ++ publishedIn handle stage deed) := by
  cases account with
  | inForce held known ledger => exact next_inForce whole held known ledger
  | ended gone known settled => exact next_ended whole gone known settled audible

/-- The books stay right along a course. -/
theorem of_leads {last : Stage C M W} {course : List (Deed C W)} (led : stage.Leads course last)
    {accepted : Submitter → List C} {published : Submitter → List Response}
    (accounts : ∀ handle, Account stage handle (accepted handle) (published handle))
    (handle : Submitter) :
    Account last handle (accepted handle ++ stage.accepted handle course)
      (published handle ++ stage.published handle course) := by
  induction led generalizing accepted published with
  | rest stage => simpa [Stage.accepted, Stage.published, collect] using accounts handle
  | @step stage last deed deeds whole later ih =>
    have audible (id : TurtleId) (member : Member C)
        (found : stage.fleet.members.get? id = some member) : member.Audible :=
      (accounts (member.handle id)).audible (Fleet.holder?_of_handle found)
    have done := ih fun handle => (accounts handle).next whole (audible handle.turtleId)
    rw [List.append_assoc, List.append_assoc] at done
    exact done

omit [Command C] [World W] [WorkMonitor M] in
theorem of_opening {start : Stage C M W} (opening : start.Opening) (handle : Submitter) :
    Account start handle [] [] := .ended (opening.holder? handle) (.inr rfl) rfl

end Account

/-- The books of all registrations are right. -/
def Booked (stage : Stage C M W) : Prop :=
  ∀ handle, ∃ accepted published, Account stage handle accepted published

namespace Booked

omit [Command C] [World W] [WorkMonitor M] in
theorem ledger {stage : Stage C M W} (booked : stage.Booked) {id : TurtleId} {member : Member C}
    (found : stage.fleet.members.get? id = some member) :
    ∃ ran waiting published, Ledger member ran waiting published := by
  obtain ⟨accepted, published, account⟩ := booked (member.handle id)
  obtain ⟨ran, waiting, _, ledger⟩ := account.ledger (Fleet.holder?_of_handle found)
  exact ⟨ran, waiting, published, ledger⟩

omit [Command C] [World W] [WorkMonitor M] in
theorem known {stage : Stage C M W} (booked : stage.Booked) {id : TurtleId} {member : Member C}
    (found : stage.fleet.members.get? id = some member) :
    member.registration < stage.fleet.registrations := by
  obtain ⟨accepted, published, account⟩ := booked (member.handle id)
  cases account with
  | inForce held known ledger => exact known
  | ended gone known settled =>
    rw [Fleet.holder?_of_handle found] at gone
    cases gone

omit [Command C] [World W] [WorkMonitor M] in
theorem audible {stage : Stage C M W} (booked : stage.Booked) {id : TurtleId} {member : Member C}
    (found : stage.fleet.members.get? id = some member) : member.Audible := by
  obtain ⟨ran, waiting, published, ledger⟩ := booked.ledger found
  exact ledger.audible

theorem next {stage : Stage C M W} (booked : stage.Booked) {deed : Deed C W}
    (whole : ¬ stage.Breaks deed.perform) : (stage.next deed).Booked := by
  intro handle
  obtain ⟨accepted, published, account⟩ := booked handle
  exact ⟨_, _, account.next whole fun member found => booked.audible found⟩

theorem of_leads {start last : Stage C M W} {course : List (Deed C W)} (opening : start.Opening)
    (led : start.Leads course last) : last.Booked := fun handle =>
  ⟨_, _, .of_leads led (fun handle => .of_opening opening handle) handle⟩

/-- A registration that is over never comes into force again. -/
theorem gone {stage last : Stage C M W} {course : List (Deed C W)} {handle : Submitter}
    (booked : stage.Booked) (led : stage.Leads course last)
    (gone : stage.fleet.holder? handle = none)
    (begun : handle.registration < stage.fleet.registrations) :
    last.fleet.holder? handle = none := by
  induction led with
  | rest stage => exact gone
  | @step stage last deed deeds whole later ih =>
    refine ih (booked.next whole) ?_ (Nat.lt_of_lt_of_le begun (stage.fleet_next deed whole).2.2)
    rcases held : (stage.next deed).fleet.holder? handle with _ | now
    · rfl
    · obtain ⟨same, _, _⟩ := Account.enrolled_of_gone whole gone
        (fun member found => booked.audible found) held
      omega

end Booked

/-- Exactly once, in order: for every registration the numbers of the responses that were published,
of the response that is held back and of the commands that are queued are the numbers from one to
the number of accepted commands. As soon as the registration is over, all of them are published. -/
theorem responses_exactly_once {start last : Stage C M W} {course : List (Deed C W)}
    (opening : start.Opening) (led : start.Leads course last) (handle : Submitter)
    (few : (start.accepted handle course).length < word64) :
    (∀ member, last.fleet.holder? handle = some member →
      (start.published handle course ++ member.pending.toList).map (·.id) ++
          member.queue.entries.map (·.id) =
        List.range' 1 (start.accepted handle course).length) ∧
    (last.fleet.holder? handle = none →
      (start.published handle course).map (·.id) =
        List.range' 1 (start.accepted handle course).length) ∧
    (¬ last.Breaks (Deed.remove (C := C) (W := W) handle.turtleId).perform →
      (start.published handle (course ++ [.remove handle.turtleId])).map (·.id) =
        List.range' 1 (start.accepted handle course).length) := by
  have accounts (handle : Submitter) : Account last handle (start.accepted handle course)
      (start.published handle course) :=
    .of_leads led (fun handle => .of_opening opening handle) handle
  refine ⟨fun member held => ?_, fun gone => (accounts handle).settled gone few, fun whole => ?_⟩
  · obtain ⟨ran, waiting, all, ledger⟩ := (accounts handle).ledger held
    rw [ledger.numbers, ← all]
    exact map_id_numbered_of_few few
  · have removed : last.Leads [.remove handle.turtleId] (last.next (.remove handle.turtleId)) :=
      .step whole (.rest _)
    have account := Account.of_leads removed accounts handle
    have gone : (last.next (.remove handle.turtleId)).fleet.holder? handle = none := by
      rw [Fleet.holder?, last.get?_next_remove handle.turtleId whole]
      rfl
    have nothing : last.accepted handle [.remove handle.turtleId] = [] := by
      simp [Stage.accepted, collect, acceptedIn, Deed.submissions]
    rw [nothing, List.append_nil] at account
    have all := account.settled gone few
    rwa [Stage.published, collect_append _ led]

/-- Three commands of a turtle, of which one is done, one is held back and one is queued when the
turtle is removed. -/
def removalCourse : List (Deed TurtleCommand MemoryWorld) :=
  [.register Sample.scout, .submit "scout" .getFuelLevel, Sample.tick,
    .submitVia ⟨"scout", 0⟩ (.turn .left), .submit "scout" (.select 3), Sample.tick]

theorem responses_exactly_once_removalCourse :
    Sample.stage.Opening ∧ Sample.stage.Leads removalCourse (Sample.stage.run removalCourse) ∧
      (Sample.stage.accepted ⟨"scout", 0⟩ removalCourse).length = 3 ∧
      ((Sample.stage.run removalCourse).fleet.holder? ⟨"scout", 0⟩).isSome ∧
      (Sample.stage.published ⟨"scout", 0⟩ (removalCourse ++ [.remove "scout"])).map (·.id) =
        [1, 2, 3] := by
  have few : (Sample.stage.accepted ⟨"scout", 0⟩ removalCourse).length = 3 := by rfl
  have once := responses_exactly_once Sample.opening (leads_run _ removalCourse) ⟨"scout", 0⟩
    (by rw [few]; decide)
  refine ⟨Sample.opening, leads_run _ _, few, by rfl, ?_⟩
  have removed := once.2.2 (whole_of_memory _ _)
  rwa [few] at removed

end Stage

end TurtleFleet
