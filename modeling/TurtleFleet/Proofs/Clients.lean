import TurtleFleet.Proofs.Broadcast
import TurtleFleet.Stream.Client

/-! Clients: a client that looks for a response finds it if it is there, wherever it stands among the
events that were kept or are still unread, and everything else stays there to be found. The lemmas say
so of one look; nothing is lost as long as the receiver does not lag and the backlog has room. -/

namespace TurtleFleet

/-- What a look came back with, if with anything. -/
def Poll.value? {α : Type} : Poll α → Option α
  | .ready value => some value
  | .failed _ => none
  | .pending => none

namespace Client

/-! ### Claiming a response -/

theorem answerTo?_eq_some_iff {id : Nat} {event : Event} {response : Response} :
    answerTo? id event = some response ↔
      Response.ofEvent? event = some response ∧ response.id = id := by
  rw [answerTo?, Option.filter_eq_some_iff, decide_eq_true_iff]

theorem id_ne_of_answerTo?_eq_none {id : Nat} {event : Event} (none : answerTo? id event = none) :
    ∀ response ∈ Response.ofEvent? event, response.id ≠ id := by
  intro response told same
  rw [answerTo?_eq_some_iff.mpr ⟨told, same⟩] at none
  cases none

/-- A claimed response is the first one of its number, and no other event is taken out. -/
theorem claim?_split {id : Nat} {events rest : List Event} {response : Response}
    (claimed : claim? id events = some (response, rest)) :
    ∃ before event after, events = before ++ event :: after ∧ rest = before ++ after ∧
      answerTo? id event = some response ∧ ∀ other ∈ before, answerTo? id other = none := by
  induction events generalizing rest with
  | nil => cases claimed
  | cons event others ih =>
    rw [claim?] at claimed
    cases answer : answerTo? id event with
    | some found =>
      rw [answer] at claimed
      cases claimed
      exact ⟨[], event, others, rfl, rfl, answer, nofun⟩
    | none =>
      rw [answer] at claimed
      obtain ⟨⟨found, left⟩, earlier, equal⟩ := Option.map_eq_some_iff.mp claimed
      cases equal
      obtain ⟨before, told, after, rfl, rfl, answered, unanswered⟩ := ih earlier
      exact ⟨event :: before, told, after, rfl, rfl, answered,
        List.forall_mem_cons.mpr ⟨answer, unanswered⟩⟩

theorem answerTo?_of_unclaimed {id : Nat} {events : List Event}
    (unclaimed : claim? id events = none) :
    ∀ event ∈ events, answerTo? id event = none := by
  induction events with
  | nil => exact nofun
  | cons event others ih =>
    rw [claim?] at unclaimed
    cases answer : answerTo? id event with
    | some found =>
      rw [answer] at unclaimed
      cases unclaimed
    | none =>
      rw [answer] at unclaimed
      exact List.forall_mem_cons.mpr ⟨answer, ih (Option.map_eq_none_iff.mp unclaimed)⟩

/-- A claimed response is taken out, and nothing else is. -/
theorem claim?_eq_some {id : Nat} {events rest : List Event} {response : Response}
    (claimed : claim? id events = some (response, rest)) :
    response.id = id ∧ (carried events).Perm (response :: carried rest) := by
  obtain ⟨before, event, after, rfl, rfl, answer, _⟩ := claim?_split claimed
  obtain ⟨told, same⟩ := answerTo?_eq_some_iff.mp answer
  refine ⟨same, ?_⟩
  rw [carried_append, carried_append, carried_cons, told]
  exact List.perm_middle

theorem claim?_eq_none {id : Nat} {events : List Event} (none : claim? id events = none) :
    ∀ response ∈ carried events, response.id ≠ id := by
  intro response listed
  obtain ⟨event, member, told⟩ := List.mem_filterMap.mp listed
  exact id_ne_of_answerTo?_eq_none (answerTo?_of_unclaimed none event member) response told

/-! ### Reading on -/

theorem keep_of_room {backlog : List Event} (room : backlog.length < backlogLimit) (event : Event) :
    keep backlog event = backlog ++ [event] := by
  rw [keep, if_pos room]

theorem length_le_keep (backlog : List Event) (event : Event) :
    backlog.length ≤ (keep backlog event).length := by
  unfold keep
  split
  · rw [List.length_append]
    omega
  · rw [List.length_append, List.length_tail, List.length_singleton]
    omega

theorem length_le_readUntil (id : Nat) (backlog unread : List Event) :
    backlog.length ≤ (readUntil id backlog unread).2.1.length := by
  induction unread generalizing backlog with
  | nil => exact Nat.le_refl _
  | cons event rest ih =>
    rw [readUntil]
    cases answerTo? id event with
    | some response => exact Nat.le_refl _
    | none => exact Nat.le_trans (length_le_keep backlog event) (ih (keep backlog event))

theorem readUntil_balance {id : Nat} {backlog unread : List Event}
    (room : (readUntil id backlog unread).2.1.length < backlogLimit) :
    (carried backlog ++ carried unread).Perm ((readUntil id backlog unread).1.toList ++
      (carried (readUntil id backlog unread).2.1 ++ carried (readUntil id backlog unread).2.2)) := by
  induction unread generalizing backlog with
  | nil => exact .refl _
  | cons event rest ih =>
    rw [readUntil] at room ⊢
    cases answer : answerTo? id event with
    | some response =>
      obtain ⟨told, same⟩ := answerTo?_eq_some_iff.mp answer
      rw [carried_cons, told]
      exact List.perm_middle
    | none =>
      rw [answer] at room
      have roomNow : backlog.length < backlogLimit :=
        Nat.lt_of_le_of_lt
          (Nat.le_trans (length_le_keep backlog event) (length_le_readUntil id _ rest)) room
      have later := ih room
      rw [keep_of_room roomNow, carried_append, carried_cons event [],
        List.append_assoc] at later
      rw [keep_of_room roomNow, carried_cons]
      simpa [carried] using later

theorem readUntil_eq_some {id : Nat} {backlog unread : List Event} {response : Response}
    (found : (readUntil id backlog unread).1 = some response) :
    response.id = id ∧ response ∈ carried unread := by
  induction unread generalizing backlog with
  | nil => cases found
  | cons event rest ih =>
    rw [readUntil] at found
    rw [carried_cons]
    cases answer : answerTo? id event with
    | some other =>
      rw [answer] at found
      cases found
      obtain ⟨told, same⟩ := answerTo?_eq_some_iff.mp answer
      exact ⟨same, List.mem_append_left _ (Option.mem_toList.mpr told)⟩
    | none =>
      rw [answer] at found
      obtain ⟨same, listed⟩ := ih found
      exact ⟨same, List.mem_append_right _ listed⟩

theorem readUntil_eq_none {id : Nat} {backlog unread : List Event}
    (none : (readUntil id backlog unread).1 = none) :
    ∀ response ∈ carried unread, response.id ≠ id := by
  induction unread generalizing backlog with
  | nil => exact nofun
  | cons event rest ih =>
    rw [readUntil] at none
    cases answer : answerTo? id event with
    | some other =>
      rw [answer] at none
      cases none
    | none =>
      rw [answer] at none
      intro response listed
      rw [carried_cons] at listed
      rcases List.mem_append.mp listed with now | later
      · exact id_ne_of_answerTo?_eq_none answer response (Option.mem_toList.mp now)
      · exact ih none response later

/-! ### One look -/

/-- The responses that a client can still find. -/
def offers (client : Client) (receiver : Receiver) : List Response :=
  carried client.backlog ++ carried receiver.unread

/-- A client and its receiver after a look that took out some responses, and no others. -/
structure Takes (client : Client) (receiver : Receiver) (taken : List Response) (after : Client)
    (left : Receiver) : Prop where
  turtleId : left.turtleId = receiver.turtleId
  isOpen : left.isOpen = receiver.isOpen
  balance : (client.offers receiver).Perm (taken ++ after.offers left)

theorem value?_verdict {α : Type} (client : Client) (reception : Reception) :
    (client.verdict reception : Poll α).value? = none := by
  cases reception <;> rfl

/-- Looking for a response finds one of its number, and only if there is none finds nothing. -/
theorem value?_waitFor (client : Client) {receiver : Receiver} (smooth : receiver.missed = 0)
    (id : Nat) :
    (∀ response ∈ (client.waitFor id receiver).1.value?,
      response.id = id ∧ response ∈ client.offers receiver) ∧
    ((client.waitFor id receiver).1.value? = none →
      ∀ response ∈ client.offers receiver, response.id ≠ id) := by
  rw [waitFor]
  cases claimed : claim? id client.backlog with
  | some found =>
    obtain ⟨response, backlog⟩ := found
    obtain ⟨same, perm⟩ := claim?_eq_some claimed
    refine ⟨fun other equal => ?_, nofun⟩
    cases equal
    exact ⟨same, List.mem_append_left _ (perm.mem_iff.mpr List.mem_cons_self)⟩
  | none =>
    have lagless : ¬ 0 < receiver.missed := by omega
    rw [if_neg lagless]
    rcases read : readUntil id client.backlog receiver.unread with ⟨found, backlog, unread⟩
    have outcome : (readUntil id client.backlog receiver.unread).1 = found := by rw [read]
    cases found with
    | some response =>
      refine ⟨fun other equal => ?_, nofun⟩
      cases equal
      obtain ⟨same, listed⟩ := readUntil_eq_some outcome
      exact ⟨same, List.mem_append_right _ listed⟩
    | none =>
      show (∀ response ∈ (client.verdict _).value?, _) ∧ ((client.verdict _).value? = none → _)
      rw [value?_verdict]
      refine ⟨nofun, fun _ response listed => ?_⟩
      rcases List.mem_append.mp listed with kept | new
      · exact claim?_eq_none claimed response kept
      · exact readUntil_eq_none outcome response new

theorem takes_waitFor {client after : Client} {receiver left : Receiver} {id : Nat}
    {poll : Poll Response} (smooth : receiver.missed = 0)
    (looked : client.waitFor id receiver = (poll, after, left))
    (room : after.backlog.length < backlogLimit) :
    client.Takes receiver poll.value?.toList after left := by
  rw [waitFor] at looked
  cases claimed : claim? id client.backlog with
  | some found =>
    obtain ⟨response, backlog⟩ := found
    rw [claimed] at looked
    cases looked
    exact ⟨rfl, rfl, (claim?_eq_some claimed).2.append_right _⟩
  | none =>
    have lagless : ¬ 0 < receiver.missed := by omega
    rw [claimed, if_neg lagless] at looked
    rcases read : readUntil id client.backlog receiver.unread with ⟨found, backlog, unread⟩
    rw [read] at looked
    have balance (roomNow : backlog.length < backlogLimit) :
        (client.offers receiver).Perm (found.toList ++ (carried backlog ++ carried unread)) := by
      have roomRead : (readUntil id client.backlog receiver.unread).2.1.length < backlogLimit := by
        rw [read]
        exact roomNow
      have kept := readUntil_balance roomRead
      rw [read] at kept
      exact kept
    cases found with
    | some response =>
      cases looked
      exact ⟨rfl, rfl, balance room⟩
    | none =>
      cases looked
      rw [value?_verdict]
      exact ⟨rfl, rfl, balance room⟩

theorem takes_next {client after : Client} {receiver left : Receiver} {poll : Poll Event}
    (smooth : receiver.missed = 0) (looked : client.next receiver = (poll, after, left)) :
    client.Takes receiver (carried poll.value?.toList) after left := by
  rw [next] at looked
  cases kept : client.backlog with
  | cons event backlog =>
    rw [kept] at looked
    cases looked
    refine ⟨rfl, rfl, ?_⟩
    rw [offers, kept, carried_cons, List.append_assoc]
    show List.Perm _ (carried [event] ++ _)
    rw [carried_cons, List.append_assoc]
    exact .refl _
  | nil =>
    have lagless : ¬ 0 < receiver.missed := by omega
    rw [kept, Receiver.receive, if_neg lagless] at looked
    cases unread : receiver.unread with
    | cons event rest =>
      rw [unread] at looked
      cases looked
      refine ⟨rfl, rfl, ?_⟩
      rw [offers, kept, unread, carried_cons]
      show List.Perm _ (carried [event] ++ (carried client.backlog ++ carried rest))
      rw [kept, carried_cons, List.append_assoc]
      exact .refl _
    | nil =>
      rw [unread] at looked
      have nothing : poll.value? = none := by
        cases isOpen : receiver.isOpen <;> rw [isOpen] at looked <;> cases looked <;> rfl
      cases looked
      rw [nothing]
      exact ⟨rfl, rfl, .refl _⟩

/-! ### Who looks -/

/-- A way of looking that leaves a client with its receiver. -/
def Stays {α : Type} (f : Client → Receiver → Poll α × Client × Receiver) : Prop :=
  ∀ client receiver, (f client receiver).2.1.receiver = client.receiver

theorem stays_waitFor (id : Nat) : Stays (·.waitFor id) := by
  intro client receiver
  show (client.waitFor id receiver).2.1.receiver = client.receiver
  rw [waitFor]
  cases claim? id client.backlog with
  | some found => rfl
  | none =>
    by_cases lags : 0 < receiver.missed
    · rw [if_pos lags]
    · rw [if_neg lags]
      rcases readUntil id client.backlog receiver.unread with ⟨_ | response, backlog, unread⟩ <;> rfl

theorem stays_next : Stays next := by
  intro client receiver
  rw [next]
  cases client.backlog <;> rfl

end Client

end TurtleFleet
