import TurtleFleet.Proofs.Handles
import TurtleFleet.Proofs.Schedule
import TurtleFleet.Stream.Bus

/-! Broadcasts: what goes out on the stream of a turtle. A deed only adds to the signals that were
seen, and only the removal of a turtle ends its stream. As long as a registration is in force, what goes
out on the stream is what is published for it. A receiver that does not lag has all of it, from the
moment it subscribed until the stream ends. -/

namespace TurtleFleet

variable {C M W : Type}

/-! ### The stream of a turtle -/

/-- The responses that go out on the stream of a turtle until it ends. -/
def streamed (turtle : TurtleId) : List Signal → List Response
  | [] => []
  | .closed other :: rest => if other = turtle then [] else streamed turtle rest
  | signal :: rest => (signal.response? turtle).toList ++ streamed turtle rest

theorem heard_cons (turtle : TurtleId) (signal : Signal) (rest : List Signal) :
    heard turtle (signal :: rest) = (signal.response? turtle).toList ++ heard turtle rest := by
  cases carried : signal.response? turtle with
  | none => rw [heard, List.filterMap_cons_none carried]; rfl
  | some response => rw [heard, List.filterMap_cons_some carried]; rfl

theorem streamed_append {turtle : TurtleId} {first : List Signal}
    (goesOn : .closed turtle ∉ first) (second : List Signal) :
    streamed turtle (first ++ second) = heard turtle first ++ streamed turtle second := by
  induction first with
  | nil => rfl
  | cons signal rest ih =>
    have later := ih fun listed => goesOn (List.mem_cons_of_mem _ listed)
    rw [heard_cons, List.append_assoc, ← later]
    cases signal with
    | closed other =>
      have apart : other ≠ turtle := by
        intro same
        rw [same] at goesOn
        exact goesOn List.mem_cons_self
      exact if_neg apart
    | _ => rfl

theorem streamed_of_open {turtle : TurtleId} {signals : List Signal}
    (goesOn : .closed turtle ∉ signals) : streamed turtle signals = heard turtle signals := by
  have all := streamed_append goesOn []
  rwa [List.append_nil, streamed, List.append_nil] at all

theorem streamed_of_ended {turtle : TurtleId} {first : List Signal} (ended : .closed turtle ∈ first)
    (second : List Signal) : streamed turtle (first ++ second) = streamed turtle first := by
  induction first with
  | nil => cases ended
  | cons signal rest ih =>
    cases signal with
    | closed other =>
      by_cases same : other = turtle
      · exact (if_pos same).trans (if_pos same).symm
      · have later : .closed turtle ∈ rest := by
          refine (List.mem_cons.mp ended).resolve_left fun equal => same ?_
          cases equal
          rfl
        exact (if_neg same).trans ((ih later).trans (if_neg same).symm)
    | effect effect =>
      have later : .closed turtle ∈ rest := (List.mem_cons.mp ended).resolve_left nofun
      exact ih later
    | published event =>
      have later : .closed turtle ∈ rest := (List.mem_cons.mp ended).resolve_left nofun
      exact congrArg (_ ++ ·) (ih later)

theorem streamed_append_of {turtle : TurtleId} {first : List Signal} {goesOn : Bool}
    (openStill : goesOn = true ↔ .closed turtle ∉ first) (second : List Signal) :
    streamed turtle (first ++ second) =
      streamed turtle first ++ if goesOn then streamed turtle second else [] := by
  by_cases ended : .closed turtle ∈ first
  · have closed : ¬ goesOn = true := fun stillOpen => openStill.mp stillOpen ended
    rw [streamed_of_ended ended, if_neg closed, List.append_nil]
  · rw [streamed_append ended, streamed_of_open ended, if_pos (openStill.mpr ended)]

theorem streamed_prefix_append (turtle : TurtleId) (first second : List Signal) :
    streamed turtle first <+: streamed turtle (first ++ second) := by
  by_cases ended : .closed turtle ∈ first
  · exact ⟨[], (List.append_nil _).trans (streamed_of_ended ended second).symm⟩
  · rw [streamed_append ended, streamed_of_open ended]
    exact List.prefix_append _ _

theorem streamed_subset (turtle : TurtleId) (signals : List Signal) :
    streamed turtle signals ⊆ heard turtle signals := by
  induction signals with
  | nil => exact List.Subset.refl _
  | cons signal rest ih =>
    intro response listed
    rw [heard_cons]
    cases signal with
    | closed other =>
      refine List.mem_append_right _ (ih ?_)
      by_cases same : other = turtle
      · rw [streamed, if_pos same] at listed
        cases listed
      · rwa [streamed, if_neg same] at listed
    | effect effect => exact List.mem_append_right _ (ih listed)
    | published event =>
      rcases List.mem_append.mp listed with now | later
      · exact List.mem_append_left _ now
      · exact List.mem_append_right _ (ih later)

theorem mem_streamed_append {turtle : TurtleId} {first second : List Signal} {response : Response}
    (listed : response ∈ streamed turtle (first ++ second)) :
    response ∈ streamed turtle first ∨ response ∈ heard turtle second := by
  by_cases ended : .closed turtle ∈ first
  · rw [streamed_of_ended ended] at listed
    exact .inl listed
  · rw [streamed_append ended, ← streamed_of_open ended] at listed
    exact (List.mem_append.mp listed).imp_right (streamed_subset turtle second ·)

/-! ### What deeds broadcast -/

def Unended (signals : List Signal) : Prop := ∀ turtle, .closed turtle ∉ signals

theorem Unended.append {first second : List Signal} (earlier : Unended first)
    (later : Unended second) : Unended (first ++ second) := by
  intro turtle ended
  rcases List.mem_append.mp ended with now | afterwards
  · exact earlier turtle now
  · exact later turtle afterwards

theorem Quiet.unended {signals : List Signal} (quiet : Quiet signals) : Unended signals := by
  intro turtle ended
  obtain ⟨effect, same⟩ := quiet _ ended
  cases same

theorem unended_published (responses : List Response) (turtle : TurtleId) :
    Unended (responses.map fun response => .published (response.toEvent turtle)) := by
  intro other ended
  obtain ⟨response, _, same⟩ := List.mem_map.mp ended
  cases same

variable [Command C] [World W] [WorkMonitor M]

namespace Stage

/-- Some more signals were seen, none of which ended a stream. -/
def Adds (stage : Stage C M W) (before : List Signal) : Prop :=
  ∃ news, stage.signals = before ++ news ∧ Unended news

omit [Command C] [World W] [WorkMonitor M] in
theorem Adds.append {stage : Stage C M W} {before news : List Signal} (adds : stage.Adds before)
    (unended : Unended news) {after : Stage C M W} (left : after.signals = stage.signals ++ news) :
    after.Adds before := by
  obtain ⟨earlier, same, quiet⟩ := adds
  refine ⟨earlier ++ news, ?_, quiet.append unended⟩
  rw [left, same, List.append_assoc]

theorem lastsTicks_adds (before : List Signal) :
    LastsTicks fun stage : Stage C M W => stage.Adds before where
  paced _ _ _ adds := adds
  takeIn _ adds := adds
  visit {round} id nanos adds := by
    have attends := round.attends_visit id nanos
    generalize round.visit id nanos = left at attends ⊢
    generalize round.task? id = task at attends
    have woken (member : Member C) : (round.wake id member).2.stage.Adds before := by
      have effects : Unended ((member.updateUpgrades id round.stage.fleet.time).2.map
          fun notice => Signal.effect (.equipment notice)) := (quiet_map _ _).unended
      exact adds.append (effects.append (unended_published _ _)) (round.wake_signals id member)
    cases attends with
    | absent missing => exact adds
    | waits found => exact woken _
    | @works member entry rest monitor found still waiting =>
      have ready : ((round.wake id member).2.watched monitor).stage.Adds before := woken member
      have answers (held : Bool) (response : Response) :
          Unended (if held then [] else [.published (response.toEvent id)]) := by
        cases held with
        | true => exact fun _ => List.not_mem_nil
        | false => exact unended_published [response] id
      exact ready.append ((quiet_map _ _).unended.append (answers _ _)) (List.append_assoc ..)

/-- What a deed adds to the signals: only the removal of a registered turtle ends a stream, that of the
turtle, and it is the last that goes out on it. -/
theorem signals_next (stage : Stage C M W) {deed : Deed C W} (whole : ¬ stage.Breaks deed.perform) :
    ∃ news, (stage.next deed).signals = stage.signals ++ news ∧
      ((Unended news ∧ ∀ id, deed = .remove id → stage.fleet.members.get? id = none) ∨
        ∃ id said, deed = .remove id ∧ Unended said ∧ news = said ++ [.closed id]) := by
  have does := stage.does_next deed whole
  generalize left : stage.next deed = after at does ⊢
  have nothing : stage.signals = stage.signals ++ [] := (List.append_nil _).symm
  have unended : Unended [] := fun _ => List.not_mem_nil
  cases does with
  | ticked arrivals nanos =>
    have adds : (stage.next (.tick arrivals nanos)).Adds stage.signals :=
      (lastsTicks_adds stage.signals).next ⟨[], nothing, unended⟩ arrivals nanos
    obtain ⟨news, same, unended⟩ := adds
    rw [← left]
    exact ⟨news, same, .inl ⟨unended, nofun⟩⟩
  | @removed id member world news found answered quiet =>
    have said := quiet.unended.append (unended_published (member.pending.toList ++
      member.queue.entries.map fun entry => Response.failure entry.id turtleRemoved) id)
    refine ⟨_, ?_, .inr ⟨id, _, rfl, said, rfl⟩⟩
    rw [List.append_assoc, List.append_assoc, List.append_assoc]
  | unspawned absent spawned quiet => exact ⟨_, rfl, .inl ⟨quiet.unended, nofun⟩⟩
  | discarded absent spawned foreign removed quiet => exact ⟨_, rfl, .inl ⟨quiet.unended, nofun⟩⟩
  | enrolled absent spawned kind quiet => exact ⟨_, rfl, .inl ⟨quiet.unended, nofun⟩⟩
  | upgraded side upgrade found => exact ⟨_, rfl, .inl ⟨(quiet_map _ _).unended, nofun⟩⟩
  | detached found joined => exact ⟨_, rfl, .inl ⟨(quiet_map _ _).unended, nofun⟩⟩
  | declined still untimed lasting =>
    exact ⟨[], nothing, .inl ⟨unended, fun id removal => (lasting id removal).elim⟩⟩
  | unremoved missing =>
    refine ⟨[], nothing, .inl ⟨unended, fun id removal => ?_⟩⟩
    cases removal
    exact missing
  | submitted submitter command => exact ⟨[], nothing, .inl ⟨unended, nofun⟩⟩
  | submittedFor command found => exact ⟨[], nothing, .inl ⟨unended, nofun⟩⟩
  | attached found apart => exact ⟨[], nothing, .inl ⟨unended, nofun⟩⟩
  | reshaped change => exact ⟨[], nothing, .inl ⟨unended, nofun⟩⟩

variable {stage last : Stage C M W} {handle : Submitter} {member : Member C}

/-- The stream of one turtle: it goes on, or the turtle is removed and the end comes last. -/
theorem ends_next {deed : Deed C W} (whole : ¬ stage.Breaks deed.perform) {news : List Signal}
    (seen : (stage.next deed).signals = stage.signals ++ news) (turtle : TurtleId) :
    (.closed turtle ∉ news ∧ (deed = .remove turtle → stage.fleet.members.get? turtle = none)) ∨
      deed = .remove turtle ∧ ∃ said, .closed turtle ∉ said ∧ news = said ++ [.closed turtle] := by
  obtain ⟨same, seenSame, ends⟩ := stage.signals_next whole
  have equal : same = news := List.append_cancel_left (seenSame.symm.trans seen)
  subst equal
  rcases ends with ⟨unended, unremoved⟩ | ⟨id, said, removal, unended, split⟩
  · exact .inl ⟨unended turtle, unremoved turtle⟩
  · subst removal
    by_cases own : id = turtle
    · subst own
      exact .inr ⟨rfl, said, unended id, split⟩
    · refine .inl ⟨fun ended => ?_, fun same => ?_⟩
      · rw [split] at ended
        rcases List.mem_append.mp ended with early | late
        · exact unended turtle early
        · cases List.mem_singleton.mp late
          exact own rfl
      · cases same
        exact (own rfl).elim

/-- Nothing but the removal of a turtle ends its stream. -/
theorem get?_next_of_ended {deed : Deed C W} (whole : ¬ stage.Breaks deed.perform)
    {news : List Signal} (seen : (stage.next deed).signals = stage.signals ++ news) {id : TurtleId}
    (ended : .closed id ∈ news) : (stage.next deed).fleet.members.get? id = none := by
  rcases ends_next whole seen id with ⟨goesOn, _⟩ | ⟨removal, _⟩
  · exact (goesOn ended).elim
  · subst removal
    exact stage.get?_next_remove id whole

/-- While a registration is in force, its turtle's stream carries what is published for it, and ends
with it. -/
theorem streamed_next {deed : Deed C W} (whole : ¬ stage.Breaks deed.perform)
    (held : stage.fleet.holder? handle = some member) {news : List Signal}
    (seen : (stage.next deed).signals = stage.signals ++ news) :
    streamed handle.turtleId news = publishedIn handle stage deed ∧
      (.closed handle.turtleId ∈ news ↔ (stage.next deed).fleet.holder? handle = none) := by
  obtain ⟨found, own⟩ := Fleet.holder?_eq_some_iff.mp held
  have published : publishedIn handle stage deed = heard handle.turtleId news := by
    rw [publishedIn, held, seen, heard_append, List.drop_left]
    rfl
  rw [published]
  rcases ends_next whole seen handle.turtleId with ⟨goesOn, unremoved⟩ | ⟨removal, said, unended, split⟩
  · refine ⟨streamed_of_open goesOn, fun ended => (goesOn ended).elim, fun gone => ?_⟩
    have other : deed ≠ .remove handle.turtleId := by
      intro removal
      cases found.symm.trans (unremoved removal)
    obtain ⟨now, after, same⟩ := (registration_next whole found).resolve_left other
    rw [holder?_of_same held after same] at gone
    cases gone
  · have last : .closed handle.turtleId ∈ news := by
      rw [split]
      exact List.mem_append_right _ (List.mem_singleton_self _)
    refine ⟨?_, fun _ => Fleet.holder?_of_missing (get?_next_of_ended whole seen last), fun _ => last⟩
    rw [split, streamed_append unended, streamed, if_pos rfl, heard_append]
    rfl

/-- During a deed that leaves a registration in force, only what is published for it goes out on its
turtle's stream. -/
theorem heard_next_of_held {deed : Deed C W} (booked : stage.Booked)
    (whole : ¬ stage.Breaks deed.perform)
    (held : (stage.next deed).fleet.holder? handle = some member) {news : List Signal}
    (seen : (stage.next deed).signals = stage.signals ++ news) :
    .closed handle.turtleId ∉ news ∧
      heard handle.turtleId news = publishedIn handle stage deed := by
  obtain ⟨found, own⟩ := Fleet.holder?_eq_some_iff.mp held
  have goesOn : .closed handle.turtleId ∉ news := by
    intro ended
    rw [get?_next_of_ended whole seen ended] at found
    cases found
  refine ⟨goesOn, ?_⟩
  rcases heldBefore : stage.fleet.holder? handle with _ | before
  · obtain ⟨begun, _, _⟩ := Account.enrolled_of_gone whole heldBefore
      (fun member found => booked.audible found) held
    have missing : stage.fleet.members.get? handle.turtleId = none := by
      rcases known : stage.fleet.members.get? handle.turtleId with _ | other
      · rfl
      rcases registration_next whole known with removal | ⟨now, after, same⟩
      · subst removal
        rw [stage.get?_next_remove _ whole] at found
        cases found
      · cases found.symm.trans after
        have older := booked.known known
        have number : handle.registration = member.registration := by rw [← own]; rfl
        omega
    have silent := heard_next_of_missing whole missing
    rw [seen, heard_append] at silent
    rw [publishedIn, heldBefore, List.append_right_eq_self.mp silent]
    rfl
  · rw [← streamed_of_open goesOn]
    exact (streamed_next whole heldBefore seen).1

theorem signals_of_leads {course : List (Deed C W)} (led : stage.Leads course last) :
    ∃ news, last.signals = stage.signals ++ news := by
  induction led with
  | rest stage => exact ⟨[], (List.append_nil _).symm⟩
  | @step stage last deed deeds whole later ih =>
    obtain ⟨first, seen, _⟩ := stage.signals_next whole
    obtain ⟨rest, seenLater⟩ := ih
    exact ⟨first ++ rest, by rw [seenLater, seen, List.append_assoc]⟩

theorem Booked.published_of_gone {course : List (Deed C W)} (booked : stage.Booked)
    (led : stage.Leads course last) (gone : stage.fleet.holder? handle = none)
    (begun : handle.registration < stage.fleet.registrations) :
    stage.published handle course = [] := by
  induction led with
  | rest stage => rfl
  | @step stage last deed deeds whole led ih =>
    have later := ih (booked.next whole) (booked.gone (.step whole (.rest _)) gone begun)
      (Nat.lt_of_lt_of_le begun (stage.fleet_next deed whole).2.2)
    rw [published, collect, publishedIn, gone]
    exact later

/-- From a registration in force on, its turtle's stream carries what is published for it. -/
theorem streamed_of_leads {course : List (Deed C W)} (booked : stage.Booked)
    (led : stage.Leads course last) (held : stage.fleet.holder? handle = some member)
    {news : List Signal} (seen : last.signals = stage.signals ++ news) :
    streamed handle.turtleId news = stage.published handle course := by
  induction led generalizing member news with
  | rest stage =>
    have nothing : news = [] := List.self_eq_append_right.mp seen
    rw [nothing]
    rfl
  | @step stage last deed deeds whole led ih =>
    obtain ⟨first, seenFirst, _⟩ := stage.signals_next whole
    obtain ⟨rest, seenRest⟩ := signals_of_leads led
    have split : news = first ++ rest := by
      rw [seenRest, seenFirst, List.append_assoc] at seen
      exact (List.append_cancel_left seen).symm
    obtain ⟨now, ends⟩ := streamed_next whole held seenFirst
    have all : stage.published handle (deed :: deeds) =
        publishedIn handle stage deed ++ (stage.next deed).published handle deeds := rfl
    rw [split, all]
    rcases heldNext : (stage.next deed).fleet.holder? handle with _ | served
    · have begun : handle.registration < stage.fleet.registrations := by
        obtain ⟨found, own⟩ := Fleet.holder?_eq_some_iff.mp held
        rw [← own]
        exact booked.known found
      have silent := (booked.next whole).published_of_gone led heldNext
        (Nat.lt_of_lt_of_le begun (stage.fleet_next deed whole).2.2)
      rw [streamed_of_ended (ends.mpr heldNext), now, silent, List.append_nil]
    · have goesOn : .closed handle.turtleId ∉ first := by
        intro ended
        rw [ends.mp ended] at heldNext
        cases heldNext
      rw [streamed_append goesOn, ← streamed_of_open goesOn, now,
        ih (booked.next whole) heldNext seenRest]

end Stage

/-! ### What receivers have -/

def carried (events : List Event) : List Response := events.filterMap Response.ofEvent?

theorem carried_cons (event : Event) (rest : List Event) :
    carried (event :: rest) = (Response.ofEvent? event).toList ++ carried rest := by
  cases told : Response.ofEvent? event with
  | none => rw [carried, List.filterMap_cons_none told]; rfl
  | some response => rw [carried, List.filterMap_cons_some told]; rfl

theorem carried_append (first second : List Event) :
    carried (first ++ second) = carried first ++ carried second := List.filterMap_append

/-- A receiver after a signal reached its bus. -/
def Receiver.hear (capacity : Nat) (receiver : Receiver) : Signal → Receiver
  | .published event =>
    if receiver.listensTo event.turtleId then receiver.keep capacity event else receiver
  | .closed turtle =>
    if receiver.listensTo turtle then { receiver with isOpen := false } else receiver
  | .effect _ => receiver

namespace Bus

theorem receiver?_changeWhere (bus : Bus) (condition : Nat → Receiver → Bool)
    (f : Receiver → Receiver) (number : Nat) :
    (bus.changeWhere condition f).receiver? number = (bus.receiver? number).map fun receiver =>
      if condition number receiver then f receiver else receiver := by
  unfold receiver? changeWhere
  generalize bus.receivers = receivers
  induction receivers with
  | nil => rfl
  | cons entry rest ih =>
    obtain ⟨other, receiver⟩ := entry
    rw [List.map_cons, List.lookup_cons, List.lookup_cons]
    cases same : number == other with
    | true =>
      rw [eq_of_beq same]
      rfl
    | false => exact ih

theorem receiver?_absorb (bus : Bus) (signal : Signal) (number : Nat) :
    (bus.absorb signal).receiver? number =
      (bus.receiver? number).map (·.hear bus.capacity signal) := by
  cases signal with
  | effect effect => exact Option.map_id'.symm
  | published event => exact bus.receiver?_changeWhere _ _ number
  | closed turtle => exact bus.receiver?_changeWhere _ _ number

theorem capacity_absorb (bus : Bus) (signal : Signal) :
    (bus.absorb signal).capacity = bus.capacity := by
  cases signal <;> rfl

theorem receiver?_absorbAll (bus : Bus) (signals : List Signal) (number : Nat) :
    (bus.absorbAll signals).receiver? number =
      (bus.receiver? number).map fun receiver => signals.foldl (·.hear bus.capacity ·) receiver := by
  induction signals generalizing bus with
  | nil => exact Option.map_id'.symm
  | cons signal rest ih =>
    have later := ih (bus.absorb signal)
    rw [capacity_absorb, receiver?_absorb, Option.map_map] at later
    exact later

theorem receiver?_setReceiver (bus : Bus) (number other : Nat) (receiver : Receiver) :
    (bus.setReceiver number receiver).receiver? other =
      if other = number then (bus.receiver? other).map fun _ => receiver
      else bus.receiver? other := by
  rw [setReceiver, receiver?_changeWhere]
  by_cases same : other = number
  · simp [same]
  · simp [same]

/-- Every receiver has a number that was given out. -/
def Numbered (bus : Bus) : Prop := ∀ entry ∈ bus.receivers, entry.1 < bus.nextReceiver

theorem Numbered.changeWhere {bus : Bus} (numbered : bus.Numbered)
    (condition : Nat → Receiver → Bool) (f : Receiver → Receiver) :
    (bus.changeWhere condition f).Numbered := by
  intro entry listed
  obtain ⟨before, known, same⟩ := List.mem_map.mp listed
  rw [← same]
  exact numbered before known

theorem Numbered.absorbAll {bus : Bus} (numbered : bus.Numbered) (signals : List Signal) :
    (bus.absorbAll signals).Numbered := by
  induction signals generalizing bus with
  | nil => exact numbered
  | cons signal rest ih =>
    have now : (bus.absorb signal).Numbered := by
      cases signal with
      | effect effect => exact numbered
      | published event => exact numbered.changeWhere _ _
      | closed turtle => exact numbered.changeWhere _ _
    exact ih now

theorem nextReceiver_absorbAll (bus : Bus) (signals : List Signal) :
    (bus.absorbAll signals).nextReceiver = bus.nextReceiver := by
  induction signals generalizing bus with
  | nil => rfl
  | cons signal rest ih =>
    refine (ih (bus.absorb signal)).trans ?_
    cases signal <;> rfl

/-- A subscription gives out the next number, for a receiver that has nothing yet. -/
theorem Numbered.subscribe {bus after : Bus} {turtle : TurtleId} {number : Nat}
    (numbered : bus.Numbered) (subscribed : bus.subscribe turtle = .ok (number, after)) :
    number = bus.nextReceiver ∧ after.nextReceiver = bus.nextReceiver + 1 ∧ after.Numbered ∧
      after.receiver? number = some { turtleId := turtle } ∧
      ∀ other, other ≠ number → after.receiver? other = bus.receiver? other := by
  rw [Bus.subscribe] at subscribed
  cases checked : bus.checkSize with
  | error fault =>
    rw [checked] at subscribed
    cases subscribed
  | ok _ =>
    rw [checked] at subscribed
    cases subscribed
    refine ⟨rfl, rfl, ?_, ?_, ?_⟩
    · intro entry listed
      rcases List.mem_append.mp listed with known | new
      · exact Nat.lt_succ_of_lt (numbered entry known)
      · rw [List.mem_singleton.mp new]
        exact Nat.lt_succ_self _
    · have unused : bus.receivers.lookup bus.nextReceiver = none := by
        apply List.lookup_eq_none_iff.mpr
        intro entry known
        have older := numbered entry known
        simpa using Nat.ne_of_gt older
      rw [receiver?, List.lookup_append, unused]
      simp
    · intro other apart
      rw [receiver?, List.lookup_append, List.lookup_cons, beq_false_of_ne apart]
      exact Option.or_none

end Bus

namespace Receiver

/-- A receiver after some signals, of which it has all that go out on its stream until that ends. -/
structure Gets (before : Receiver) (signals : List Signal) (after : Receiver) : Prop where
  turtleId : after.turtleId = before.turtleId
  unread : carried after.unread =
    carried before.unread ++ if before.isOpen then streamed before.turtleId signals else []
  isOpen : after.isOpen = true ↔ before.isOpen = true ∧ .closed before.turtleId ∉ signals

theorem Gets.refl (receiver : Receiver) : receiver.Gets [] receiver := by
  refine ⟨rfl, ?_, ?_⟩
  · rw [streamed, ite_self, List.append_nil]
  · simp

theorem Gets.trans {first second third : Receiver} {earlier later : List Signal}
    (gets : first.Gets earlier second) (further : second.Gets later third) :
    first.Gets (earlier ++ later) third := by
  have same := gets.turtleId
  refine ⟨further.turtleId.trans same, ?_, ?_⟩
  · rw [further.unread, gets.unread, List.append_assoc, same]
    congr 1
    cases isOpen : first.isOpen with
    | false =>
      have ended : second.isOpen = false := by
        rw [← Bool.not_eq_true, gets.isOpen, isOpen]
        exact fun both => Bool.false_ne_true both.1
      rw [ended]
      rfl
    | true =>
      have openStill : second.isOpen = true ↔ .closed first.turtleId ∉ earlier := by
        rw [gets.isOpen, isOpen, eq_self, true_and]
      exact (streamed_append_of openStill later).symm
  · rw [further.isOpen, gets.isOpen, same, List.mem_append, not_or, and_assoc]

/-- A receiver that loses nothing gets what goes out. -/
theorem gets_hear {receiver : Receiver} {capacity : Nat} {signal : Signal}
    (smooth : (receiver.hear capacity signal).missed = 0) :
    receiver.missed = 0 ∧ receiver.Gets [signal] (receiver.hear capacity signal) := by
  cases signal with
  | effect effect =>
    refine ⟨smooth, rfl, ?_, ?_⟩
    · rw [show streamed receiver.turtleId [.effect effect] = [] from rfl, ite_self, List.append_nil]
      rfl
    · simp [hear]
  | published event =>
    by_cases listens : receiver.listensTo event.turtleId = true
    · obtain ⟨isOpen, own⟩ : receiver.isOpen = true ∧ receiver.turtleId = event.turtleId := by
        simpa [listensTo] using listens
      rw [hear, if_pos listens, keep] at smooth ⊢
      split at smooth
      · rename_i fits
        rw [if_pos fits]
        refine ⟨smooth, rfl, ?_, ?_⟩
        · have told : streamed receiver.turtleId [.published event] = carried [event] := by
            rw [streamed_of_open (by simp), heard_cons, carried_cons, Signal.response?,
              if_pos own.symm]
            rfl
          rw [carried_append, isOpen, if_pos rfl, told]
        · simp [isOpen]
      · cases smooth
    · rw [hear, if_neg listens] at smooth ⊢
      refine ⟨smooth, rfl, ?_, by simp⟩
      cases isOpen : receiver.isOpen with
      | false => rw [if_neg Bool.false_ne_true, List.append_nil]
      | true =>
        have apart : event.turtleId ≠ receiver.turtleId := by
          intro same
          simp [listensTo, isOpen, same] at listens
        rw [if_pos rfl, streamed_of_open (by simp), heard_cons, Signal.response?, if_neg apart]
        exact (List.append_nil _).symm
  | closed turtle =>
    by_cases listens : receiver.listensTo turtle = true
    · obtain ⟨isOpen, own⟩ : receiver.isOpen = true ∧ receiver.turtleId = turtle := by
        simpa [listensTo] using listens
      rw [hear, if_pos listens] at smooth ⊢
      refine ⟨smooth, rfl, ?_, ?_⟩
      · rw [streamed, if_pos own.symm, ite_self, List.append_nil]
      · simp [own]
    · rw [hear, if_neg listens] at smooth ⊢
      cases isOpen : receiver.isOpen with
      | false =>
        refine ⟨smooth, rfl, ?_, ?_⟩
        · rw [isOpen, if_neg Bool.false_ne_true, List.append_nil]
        · simp [isOpen]
      | true =>
        have apart : turtle ≠ receiver.turtleId := by
          intro same
          simp [listensTo, isOpen, same] at listens
        refine ⟨smooth, rfl, ?_, ?_⟩
        · rw [streamed, if_neg apart, streamed, ite_self, List.append_nil]
        · simp [isOpen, Ne.symm apart]

theorem gets_all {receiver : Receiver} {capacity : Nat} {signals : List Signal}
    (smooth : (signals.foldl (hear capacity) receiver).missed = 0) :
    receiver.missed = 0 ∧ receiver.Gets signals (signals.foldl (hear capacity) receiver) := by
  induction signals generalizing receiver with
  | nil => exact ⟨smooth, .refl receiver⟩
  | cons signal rest ih =>
    obtain ⟨smoothFirst, later⟩ := ih smooth
    obtain ⟨fine, first⟩ := gets_hear smoothFirst
    exact ⟨fine, first.trans later⟩

end Receiver

end TurtleFleet
