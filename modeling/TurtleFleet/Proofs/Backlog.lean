import TurtleFleet.Proofs.Clients

/-! The backlog: what becomes of the events that a client receives, whatever it looks for and however
often it has to wait. A journal lists all events received, in the order of their arrival, with what
became of each; the backlog is what still waits in it. Every look of a client changes the journal by
rules that speak of the journal only. -/

namespace TurtleFleet

/-- What became of an event that a client received. -/
inductive Lot where
  | waiting
  /-- It was returned as the response to a submission. -/
  | answered
  /-- It was returned as it is. -/
  | taken
  /-- A full backlog lost it. -/
  | dropped
deriving DecidableEq

/-- The events that a client received, in the order of their arrival, with what became of them. -/
abbrev Journal := List (Event × Lot)

namespace Lot

/-- The events of a journal that have the lot, in the order of their arrival. -/
def among (lot : Lot) (journal : Journal) : List Event :=
  journal.filterMap fun entry => if entry.2 = lot then some entry.1 else none

variable {lot : Lot} {journal : Journal}

@[simp] theorem among_nil : lot.among [] = [] := rfl

@[simp] theorem among_append (first second : Journal) :
    lot.among (first ++ second) = lot.among first ++ lot.among second := List.filterMap_append

@[simp] theorem among_cons_self (event : Event) (rest : Journal) :
    lot.among ((event, lot) :: rest) = event :: lot.among rest := by simp [among]

theorem among_cons_of_ne {other : Lot} (apart : other ≠ lot) (event : Event) (rest : Journal) :
    lot.among ((event, other) :: rest) = lot.among rest := by simp [among, apart]

/-- An event that has the lot is found in the journal, where it stands between the others. -/
theorem split_of_among {before after : List Event} {event : Event}
    (same : lot.among journal = before ++ event :: after) :
    ∃ earlier later, journal = earlier ++ (event, lot) :: later ∧
      lot.among earlier = before ∧ lot.among later = after := by
  obtain ⟨first, second, rfl, listed, rest⟩ := List.filterMap_eq_append_iff.mp same
  obtain ⟨others, ⟨found, held⟩, later, rfl, apart, one, last⟩ := List.filterMap_eq_cons_iff.mp rest
  obtain ⟨rfl, rfl⟩ : held = lot ∧ found = event := by simpa using one
  have none : Lot.among held others = [] := List.filterMap_eq_nil_iff.mpr apart
  refine ⟨first ++ others, later, (List.append_assoc ..).symm, ?_, last⟩
  rw [among_append, none, List.append_nil]
  exact listed

end Lot

/-! ### The rules -/

namespace Journal

/-- An event arrives that is not looked for. A full backlog loses the event that waited longest. -/
inductive Keeps (event : Event) : Journal → Journal → Prop where
  | room {journal : Journal} (room : (Lot.waiting.among journal).length < backlogLimit) :
      Keeps event journal (journal ++ [(event, .waiting)])
  | full {earlier later : Journal} {oldest : Event} (first : Lot.waiting.among earlier = [])
      (full : (Lot.waiting.among (earlier ++ (oldest, .waiting) :: later)).length = backlogLimit) :
      Keeps event (earlier ++ (oldest, .waiting) :: later)
        (earlier ++ (oldest, .dropped) :: later ++ [(event, .waiting)])

/-- What a client comes back with that receives no event. -/
inductive Misses {α : Type} (turtle : TurtleId) : Reception → Poll α → Prop where
  | lagged (missed : Nat) : Misses turtle (.lagged missed) (.failed (.lagged turtle missed))
  | closed : Misses turtle .closed (.failed (.streamClosed turtle))
  | empty : Misses turtle .empty .pending

/-- Receiving events up to the response to a submission. -/
inductive Seeks (turtle : TurtleId) (id : Nat) :
    Journal → Receiver → Poll Response → Receiver → Journal → Prop where
  | found {journal : Journal} {receiver left : Receiver} {event : Event} {response : Response}
      (came : receiver.receive = (.event event, left))
      (answer : Client.answerTo? id event = some response) :
      Seeks turtle id journal receiver (.ready response) left (journal ++ [(event, .answered)])
  | passed {journal between noted : Journal} {receiver next left : Receiver} {event : Event}
      {poll : Poll Response} (came : receiver.receive = (.event event, next))
      (other : Client.answerTo? id event = none) (keeps : Keeps event journal between)
      (later : Seeks turtle id between next poll left noted) :
      Seeks turtle id journal receiver poll left noted
  | missed {journal : Journal} {receiver left : Receiver} {reception : Reception}
      {poll : Poll Response} (came : receiver.receive = (reception, left))
      (misses : Misses turtle reception poll) : Seeks turtle id journal receiver poll left journal

/-- Looking for the response to a submission: the first event that waits and carries it is returned.
Only if there is none the client reads on. What it then leaves waiting does not carry it either, so
that a client that goes on waiting may as well look anew. -/
inductive Answers (turtle : TurtleId) (id : Nat) :
    Journal → Receiver → Poll Response → Receiver → Journal → Prop where
  | waited {earlier later : Journal} {receiver : Receiver} {event : Event} {response : Response}
      (first : ∀ other ∈ Lot.waiting.among earlier, Client.answerTo? id other = none)
      (answer : Client.answerTo? id event = some response) :
      Answers turtle id (earlier ++ (event, .waiting) :: later) receiver (.ready response) receiver
        (earlier ++ (event, .answered) :: later)
  | sought {journal noted : Journal} {receiver left : Receiver} {poll : Poll Response}
      (unheld : ∀ other ∈ Lot.waiting.among journal, Client.answerTo? id other = none)
      (seeks : Seeks turtle id journal receiver poll left noted)
      (still : ∀ other ∈ Lot.waiting.among noted, Client.answerTo? id other = none) :
      Answers turtle id journal receiver poll left noted

/-- Taking the next event: the one that has waited longest, or else the next one received. -/
inductive Yields (turtle : TurtleId) :
    Journal → Receiver → Poll Event → Receiver → Journal → Prop where
  | waited {earlier later : Journal} {receiver : Receiver} {event : Event}
      (first : Lot.waiting.among earlier = []) :
      Yields turtle (earlier ++ (event, .waiting) :: later) receiver (.ready event) receiver
        (earlier ++ (event, .taken) :: later)
  | received {journal : Journal} {receiver left : Receiver} {event : Event}
      (empty : Lot.waiting.among journal = []) (came : receiver.receive = (.event event, left)) :
      Yields turtle journal receiver (.ready event) left (journal ++ [(event, .taken)])
  | missed {journal : Journal} {receiver left : Receiver} {reception : Reception}
      {poll : Poll Event} (empty : Lot.waiting.among journal = [])
      (came : receiver.receive = (reception, left)) (misses : Misses turtle reception poll) :
      Yields turtle journal receiver poll left journal

/-! ### What the rules amount to -/

/-- Up to some point of the journal nothing waits any more, and from there on nothing was taken. -/
def Tidy (journal : Journal) : Prop :=
  ∃ past present, journal = past ++ present ∧ Lot.waiting.among past = [] ∧
    Lot.taken.among present = []

/-- What waits stands where nothing was taken from. -/
theorem Tidy.split {earlier later : Journal} {event : Event}
    (tidy : Tidy (earlier ++ (event, .waiting) :: later)) :
    ∃ past present, earlier = past ++ present ∧ Lot.waiting.among past = [] ∧
      Lot.taken.among present = [] ∧ Lot.taken.among later = [] := by
  obtain ⟨past, present, whole, unheld, untaken⟩ := tidy
  rcases List.append_eq_append_iff.mp whole with ⟨more, rfl, rest⟩ | ⟨more, rfl, rest⟩
  · cases more with
    | nil =>
      rw [List.nil_append] at rest
      rw [← rest, Lot.among_cons_of_ne (by decide)] at untaken
      exact ⟨earlier, [], by simp, by simpa using unheld, rfl, untaken⟩
    | cons first others =>
      cases rest
      simp at unheld
  · rw [rest, Lot.among_append, Lot.among_cons_of_ne (by decide), List.append_eq_nil_iff] at untaken
    exact ⟨past, more, rfl, unheld, untaken⟩

/-- The journal goes on with some events, of which or of those before some are returned. -/
structure Grows (journal noted : Journal) (received : List Event) (responses : List Response)
    (events : List Event) : Prop where
  received : noted.map (·.1) = journal.map (·.1) ++ received
  answered : ((Lot.answered.among noted).map Response.ofEvent?).Perm
    ((Lot.answered.among journal).map Response.ofEvent? ++ responses.map some)
  tidy : Tidy journal → Tidy noted
  taken : Tidy journal → Lot.taken.among noted = Lot.taken.among journal ++ events

namespace Grows

theorem refl (journal : Journal) : Grows journal journal [] [] [] where
  received := (List.append_nil _).symm
  answered := by simp
  tidy := id
  taken _ := (List.append_nil _).symm

theorem trans {journal between noted : Journal} {received receivedLater : List Event}
    {responses responsesLater : List Response} {events eventsLater : List Event}
    (grows : Grows journal between received responses events)
    (later : Grows between noted receivedLater responsesLater eventsLater) :
    Grows journal noted (received ++ receivedLater) (responses ++ responsesLater)
      (events ++ eventsLater) where
  received := by rw [later.received, grows.received, List.append_assoc]
  answered := by
    rw [List.map_append, ← List.append_assoc]
    exact later.answered.trans (grows.answered.append_right _)
  tidy fit := later.tidy (grows.tidy fit)
  taken fit := by rw [later.taken (grows.tidy fit), grows.taken fit, List.append_assoc]

end Grows

theorem Keeps.grows {journal noted : Journal} {event : Event} (keeps : Keeps event journal noted) :
    Grows journal noted [event] [] [] := by
  cases keeps with
  | room room =>
    refine ⟨by simp, by simp [Lot.among_cons_of_ne], fun tidy => ?_, by simp [Lot.among_cons_of_ne]⟩
    obtain ⟨past, present, rfl, unheld, untaken⟩ := tidy
    refine ⟨past, present ++ [(event, .waiting)], List.append_assoc .., unheld, ?_⟩
    simp [untaken, Lot.among_cons_of_ne]
  | @full earlier later oldest first full =>
    refine ⟨by simp, by simp [Lot.among_cons_of_ne], fun tidy => ?_, by simp [Lot.among_cons_of_ne]⟩
    obtain ⟨past, present, rfl, unheld, untaken, rest⟩ := tidy.split
    refine ⟨past, present ++ (oldest, .dropped) :: later ++ [(event, .waiting)], by simp, unheld, ?_⟩
    simp [untaken, rest, Lot.among_cons_of_ne]

theorem unread_of_event {receiver left : Receiver} {event : Event}
    (came : receiver.receive = (.event event, left)) : receiver.unread = event :: left.unread := by
  rw [Receiver.receive] at came
  split at came
  · cases came
  · cases unread : receiver.unread with
    | nil =>
      rw [unread] at came
      obtain ⟨nothing, _⟩ := Prod.mk.inj came
      split at nothing <;> cases nothing
    | cons first rest =>
      rw [unread] at came
      cases came
      rfl

theorem unread_of_misses {α : Type} {turtle : TurtleId} {poll : Poll α}
    {receiver left : Receiver} {reception : Reception} (came : receiver.receive = (reception, left))
    (misses : Misses turtle reception poll) : receiver.unread = left.unread := by
  rw [Receiver.receive] at came
  split at came
  · cases came
    rfl
  · cases unread : receiver.unread with
    | nil =>
      rw [unread] at came
      cases came
      exact unread.symm
    | cons first rest =>
      rw [unread] at came
      cases came
      cases misses

theorem Misses.value? {α : Type} {turtle : TurtleId} {reception : Reception} {poll : Poll α}
    (misses : Misses turtle reception poll) : poll.value? = none := by
  cases misses <;> rfl

theorem Seeks.grows {turtle : TurtleId} {id : Nat} {journal noted : Journal}
    {receiver left : Receiver} {poll : Poll Response}
    (seeks : Seeks turtle id journal receiver poll left noted) :
    ∃ received, receiver.unread = received ++ left.unread ∧
      Grows journal noted received poll.value?.toList [] := by
  induction seeks with
  | @found journal receiver left event response came answer =>
    refine ⟨[event], unread_of_event came, by simp, ?_, fun tidy => ?_, ?_⟩
    · simp [Poll.value?, (Client.answerTo?_eq_some_iff.mp answer).1]
    · obtain ⟨past, present, rfl, unheld, untaken⟩ := tidy
      refine ⟨past, present ++ [(event, .answered)], List.append_assoc .., unheld, ?_⟩
      simp [untaken, Lot.among_cons_of_ne]
    · simp [Lot.among_cons_of_ne]
  | @passed _ _ _ _ _ _ event _ came other keeps _ ih =>
    obtain ⟨received, rest, grows⟩ := ih
    exact ⟨event :: received, (unread_of_event came).trans (congrArg _ rest),
      keeps.grows.trans grows⟩
  | missed came misses =>
    refine ⟨[], unread_of_misses came misses, ?_⟩
    rw [misses.value?]
    exact .refl _

theorem Answers.grows {turtle : TurtleId} {id : Nat} {journal noted : Journal}
    {receiver left : Receiver} {poll : Poll Response}
    (answers : Answers turtle id journal receiver poll left noted) :
    ∃ received, receiver.unread = received ++ left.unread ∧
      Grows journal noted received poll.value?.toList [] := by
  cases answers with
  | @waited earlier later _ event response first answer =>
    refine ⟨[], rfl, by simp, ?_, fun tidy => ?_, ?_⟩
    · have told := (Client.answerTo?_eq_some_iff.mp answer).1
      simp only [Lot.among_append, Lot.among_cons_self, List.map_append, List.map_cons, told,
        Lot.among_cons_of_ne (show Lot.waiting ≠ .answered by decide)]
      exact List.perm_middle.trans (List.perm_append_singleton _ _).symm
    · obtain ⟨past, present, rfl, unheld, untaken, rest⟩ := tidy.split
      refine ⟨past, present ++ (event, .answered) :: later, by simp, unheld, ?_⟩
      simp [untaken, rest, Lot.among_cons_of_ne]
    · simp [Lot.among_cons_of_ne]
  | sought unheld seeks still => exact seeks.grows

theorem Yields.grows {turtle : TurtleId} {journal noted : Journal} {receiver left : Receiver}
    {poll : Poll Event} (yields : Yields turtle journal receiver poll left noted) :
    ∃ received, receiver.unread = received ++ left.unread ∧
      Grows journal noted received [] poll.value?.toList := by
  cases yields with
  | @waited earlier later _ event first =>
    refine ⟨[], rfl, by simp, by simp [Lot.among_cons_of_ne], fun tidy => ?_, fun tidy => ?_⟩
    · obtain ⟨past, present, rfl, unheld, untaken, rest⟩ := tidy.split
      refine ⟨past ++ present ++ [(event, .taken)], later, by simp, ?_, rest⟩
      simpa [Lot.among_cons_of_ne] using first
    · obtain ⟨past, present, rfl, unheld, untaken, rest⟩ := tidy.split
      simp [untaken, rest, Lot.among_cons_of_ne, Poll.value?]
  | @received _ _ _ event empty came =>
    refine ⟨[event], unread_of_event came, by simp, by simp [Lot.among_cons_of_ne],
      fun tidy => ?_, fun tidy => by simp [Poll.value?]⟩
    refine ⟨journal ++ [(event, .taken)], [], by simp, ?_, rfl⟩
    simp [empty, Lot.among_cons_of_ne]
  | missed empty came misses =>
    refine ⟨[], unread_of_misses came misses, ?_⟩
    rw [misses.value?]
    exact .refl _

end Journal

/-! ### What a single look does -/

namespace Client

open Journal

/-- The events that a journal says to wait are those of a backlog. -/
structure Backs (journal : Journal) (backlog : List Event) : Prop where
  waiting : Lot.waiting.among journal = backlog
  within : backlog.length ≤ backlogLimit

variable {journal : Journal} {backlog : List Event}

theorem keeps_keep (backs : Backs journal backlog) (event : Event) :
    ∃ noted, Keeps event journal noted ∧ Backs noted (keep backlog event) := by
  obtain ⟨waiting, within⟩ := backs
  by_cases room : backlog.length < backlogLimit
  · refine ⟨_, .room (waiting ▸ room), ?_, ?_⟩
    · rw [keep_of_room room, Lot.among_append, waiting]
      rfl
    · rw [keep_of_room room, List.length_append]
      exact room
  · cases backlog with
    | nil => exact (room (by decide)).elim
    | cons oldest others =>
      have split : Lot.waiting.among journal = [] ++ oldest :: others := waiting
      obtain ⟨earlier, later, rfl, first, rest⟩ := Lot.split_of_among split
      have full : (oldest :: others).length = backlogLimit := by omega
      refine ⟨_, .full first (waiting ▸ full), ?_, ?_⟩
      · rw [keep, if_neg room, List.tail_cons, Lot.among_append, Lot.among_append, first,
          Lot.among_cons_of_ne (by decide), rest]
        rfl
      · rw [keep, if_neg room, List.tail_cons, List.length_append]
        exact Nat.le_of_eq full

theorem mem_of_mem_keep {other event : Event} (listed : other ∈ keep backlog event) :
    other ∈ backlog ∨ other = event := by
  unfold keep at listed
  split at listed
  · simpa using listed
  · rcases List.mem_append.mp listed with old | new
    · exact .inl (List.mem_of_mem_tail old)
    · exact .inr (List.mem_singleton.mp new)

theorem misses_verdict {α : Type} (client : Client) {reception : Reception}
    (none : ∀ event, reception ≠ .event event) :
    Misses client.submitter.turtleId reception (client.verdict reception : Poll α) := by
  cases reception with
  | event event => exact (none event rfl).elim
  | lagged missed => exact .lagged missed
  | empty => exact .empty
  | closed => exact .closed

theorem seeks_readUntil (client : Client) {receiver : Receiver} (smooth : receiver.missed = 0)
    {id : Nat} {unread left after : List Event} {found : Option Response}
    (backs : Backs journal backlog) (unheld : ∀ other ∈ backlog, answerTo? id other = none)
    (read : readUntil id backlog unread = (found, after, left)) :
    ∃ noted, Seeks client.submitter.turtleId id journal { receiver with unread }
        (match found with
          | some response => .ready response
          | none => client.verdict (Receiver.receive { receiver with unread := left }).1)
        { receiver with unread := left } noted ∧
      Backs noted after ∧ ∀ other ∈ after, answerTo? id other = none := by
  induction unread generalizing journal backlog with
  | nil =>
    cases read
    refine ⟨journal, .missed ?_ (client.misses_verdict ?_), backs, unheld⟩
    · simp [Receiver.receive, smooth]
    · intro event
      simp only [Receiver.receive, smooth, Nat.lt_irrefl, ↓reduceIte]
      split <;> simp
  | cons event rest ih =>
    have came : Receiver.receive { receiver with unread := event :: rest } =
        (.event event, { receiver with unread := rest }) := by simp [Receiver.receive, smooth]
    rw [readUntil] at read
    cases answer : answerTo? id event with
    | some response =>
      rw [answer] at read
      cases read
      refine ⟨_, .found came answer, ⟨?_, backs.within⟩, unheld⟩
      rw [Lot.among_append, Lot.among_cons_of_ne (by decide), Lot.among_nil, List.append_nil]
      exact backs.waiting
    | none =>
      rw [answer] at read
      obtain ⟨between, keeps, backsThen⟩ := keeps_keep backs event
      have unheldThen : ∀ other ∈ keep backlog event, answerTo? id other = none := by
        intro other listed
        rcases mem_of_mem_keep listed with old | rfl
        · exact unheld other old
        · exact answer
      obtain ⟨noted, seeks, held⟩ := ih backsThen unheldThen read
      exact ⟨noted, .passed came answer keeps seeks, held⟩

theorem answers_waitFor {client after : Client} {id : Nat} {receiver left : Receiver}
    {poll : Poll Response} (backs : Backs journal client.backlog)
    (looked : client.waitFor id receiver = (poll, after, left)) :
    ∃ noted, Answers client.submitter.turtleId id journal receiver poll left noted ∧
      Backs noted after.backlog := by
  rw [waitFor] at looked
  cases claimed : claim? id client.backlog with
  | some claim =>
    obtain ⟨response, rest⟩ := claim
    rw [claimed] at looked
    cases looked
    obtain ⟨before, event, after, split, rfl, answer, first⟩ := claim?_split claimed
    obtain ⟨earlier, later, rfl, rfl, rfl⟩ := Lot.split_of_among (backs.waiting.trans split)
    refine ⟨_, .waited first answer, ?_, ?_⟩
    · rw [Lot.among_append, Lot.among_cons_of_ne (by decide)]
    · have within := backs.within
      rw [split, List.length_append, List.length_cons] at within
      rw [List.length_append]
      omega
  | none =>
    have unheld := answerTo?_of_unclaimed claimed
    rw [claimed] at looked
    by_cases lags : 0 < receiver.missed
    · rw [if_pos lags, Receiver.receive, if_pos lags] at looked
      cases looked
      refine ⟨journal, .sought (backs.waiting ▸ unheld) (.missed ?_ (.lagged receiver.missed))
        (backs.waiting ▸ unheld), backs⟩
      rw [Receiver.receive, if_pos lags]
    · rw [if_neg lags] at looked
      rcases read : readUntil id client.backlog receiver.unread with ⟨found, backlog, unread⟩
      obtain ⟨noted, seeks, backsThen, still⟩ :=
        client.seeks_readUntil (Nat.eq_zero_of_not_pos lags) backs unheld read
      rw [read] at looked
      refine ⟨noted, .sought (backs.waiting ▸ unheld) ?_ (backsThen.waiting ▸ still), ?_⟩
      · cases found <;> cases looked <;> exact seeks
      · cases found <;> cases looked <;> exact backsThen

theorem yields_next {client after : Client} {receiver left : Receiver} {poll : Poll Event}
    (backs : Backs journal client.backlog) (looked : client.next receiver = (poll, after, left)) :
    ∃ noted, Yields client.submitter.turtleId journal receiver poll left noted ∧
      Backs noted after.backlog := by
  rw [next] at looked
  cases kept : client.backlog with
  | cons event backlog =>
    rw [kept] at looked
    cases looked
    have split : Lot.waiting.among journal = [] ++ event :: backlog := backs.waiting.trans kept
    obtain ⟨earlier, later, rfl, first, rfl⟩ := Lot.split_of_among split
    refine ⟨_, .waited first, ?_, ?_⟩
    · rw [Lot.among_append, first, Lot.among_cons_of_ne (by decide)]
      rfl
    · have within := backs.within
      rw [kept, List.length_cons] at within
      exact Nat.le_of_succ_le within
  | nil =>
    have empty : Lot.waiting.among journal = [] := backs.waiting.trans kept
    rw [kept] at looked
    rcases came : receiver.receive with ⟨reception, next⟩
    rw [came] at looked
    cases reception with
    | event event =>
      cases looked
      refine ⟨_, .received empty came, ?_, backs.within⟩
      rw [Lot.among_append, Lot.among_cons_of_ne (by decide), Lot.among_nil, List.append_nil]
      exact backs.waiting
    | _ =>
      cases looked
      exact ⟨journal, .missed empty came (client.misses_verdict (by simp)), backs⟩

end Client

/-! ### All looks of a client -/

/-- A look through the receiver of a client as it stands at that moment. -/
inductive Look where
  | waitFor (id : Nat) (receiver : Receiver)
  | next (receiver : Receiver)

def Look.receiver : Look → Receiver
  | waitFor _ receiver => receiver
  | next receiver => receiver

namespace Client

def after (client : Client) : Look → Client
  | .waitFor id receiver => (client.waitFor id receiver).2.1
  | .next receiver => (client.next receiver).2.1

def left (client : Client) : Look → Receiver
  | .waitFor id receiver => (client.waitFor id receiver).2.2
  | .next receiver => (client.next receiver).2.2

def received (client : Client) (look : Look) : List Event :=
  look.receiver.unread.take (look.receiver.unread.length - (client.left look).unread.length)

def responseOf (client : Client) : Look → List Response
  | .waitFor id receiver => (client.waitFor id receiver).1.value?.toList
  | .next _ => []

/-- The event that a look for the next one comes back with. -/
def eventOf (client : Client) : Look → List Event
  | .waitFor .. => []
  | .next receiver => (client.next receiver).1.value?.toList

/-- What the looks of a client contribute to a list. -/
def collect {α : Type} (note : Client → Look → List α) : Client → List Look → List α
  | _, [] => []
  | client, look :: looks => note client look ++ collect note (client.after look) looks

end Client

/-- A look changes the journal by the rules. -/
inductive Journal.Notes (client : Client) (journal noted : Journal) : Look → Prop where
  | waitFor {id : Nat} {receiver : Receiver}
      (answers : Answers client.submitter.turtleId id journal receiver
        (client.waitFor id receiver).1 (client.waitFor id receiver).2.2 noted) :
      Notes client journal noted (.waitFor id receiver)
  | next {receiver : Receiver}
      (yields : Yields client.submitter.turtleId journal receiver (client.next receiver).1
        (client.next receiver).2.2 noted) :
      Notes client journal noted (.next receiver)

/-- The journal follows a client through its looks, and says at any time what its backlog is. -/
inductive Journal.Follows : Client → Journal → List Look → Journal → Prop where
  | rest (client : Client) (journal : Journal) : Follows client journal [] journal
  | look {client : Client} {journal between noted : Journal} {look : Look} {looks : List Look}
      (notes : Notes client journal between look)
      (reads : look.receiver.unread = client.received look ++ (client.left look).unread)
      (waiting : Lot.waiting.among between = (client.after look).backlog)
      (later : Follows (client.after look) between looks noted) :
      Follows client journal (look :: looks) noted

namespace Client

open Journal

variable {client : Client} {journal : Journal}

theorem notes_look (backs : Backs journal client.backlog) (look : Look) :
    ∃ noted, Notes client journal noted look ∧ Backs noted (client.after look).backlog ∧
      look.receiver.unread = client.received look ++ (client.left look).unread ∧
      Grows journal noted (client.received look) (client.responseOf look) (client.eventOf look) := by
  have read {received : List Event}
      (split : look.receiver.unread = received ++ (client.left look).unread) :
      client.received look = received := by
    simp [Client.received, split]
  cases look with
  | waitFor id receiver =>
    obtain ⟨noted, answers, backsThen⟩ := answers_waitFor backs (by rfl)
    obtain ⟨received, split, grows⟩ := answers.grows
    rw [read split]
    exact ⟨noted, .waitFor answers, backsThen, split, grows⟩
  | next receiver =>
    obtain ⟨noted, yields, backsThen⟩ := yields_next backs (by rfl)
    obtain ⟨received, split, grows⟩ := yields.grows
    rw [read split]
    exact ⟨noted, .next yields, backsThen, split, grows⟩

theorem follows_looks (backs : Backs journal client.backlog) (looks : List Look) :
    ∃ noted, Journal.Follows client journal looks noted ∧
      Backs noted (looks.foldl after client).backlog ∧
      Grows journal noted (client.collect received looks) (client.collect responseOf looks)
        (client.collect eventOf looks) := by
  induction looks generalizing client journal with
  | nil => exact ⟨journal, .rest client journal, backs, .refl journal⟩
  | cons look looks ih =>
    obtain ⟨between, notes, backsThen, reads, grows⟩ := notes_look backs look
    obtain ⟨noted, follows, backsLast, growsLater⟩ := ih backsThen
    exact ⟨noted, .look notes reads backsThen.waiting follows, backsLast, grows.trans growsLater⟩

/-- A client neither loses nor doubles nor reorders events. Whatever it looks for, and whatever it
finds in its receiver each time, there is a journal of all events that it received, in the order of
their arrival, which changes by the rules with every look: a response to a submission is the first
one that waits or else the first one received, the next event is the one that has waited longest,
only a full backlog loses an event, which is the one that has waited longest, and a client that gets
no event changes nothing. What waits is the backlog; the events taken one by one come in the order of
their arrival; and every response returned is that of one event. -/
theorem journal_of_looks (fresh : client.backlog = []) (looks : List Look) :
    ∃ journal, Journal.Follows client [] looks journal ∧
      journal.map (·.1) = client.collect received looks ∧
      Lot.waiting.among journal = (looks.foldl after client).backlog ∧
      (looks.foldl after client).backlog.length ≤ backlogLimit ∧
      Lot.taken.among journal = client.collect eventOf looks ∧
      ((Lot.answered.among journal).map Response.ofEvent?).Perm
        ((client.collect responseOf looks).map some) := by
  have backs : Backs [] client.backlog := ⟨fresh.symm, by simp [fresh]⟩
  have tidy : Tidy [] := ⟨[], [], rfl, rfl, rfl⟩
  obtain ⟨journal, follows, backsLast, grows⟩ := follows_looks backs looks
  exact ⟨journal, follows, grows.received, backsLast.waiting, backsLast.within, grows.taken tidy,
    grows.answered⟩

def watcher : Client := { submitter := { turtleId := "scout", registration := 0 }, receiver := 0 }

def watched (name : String) : Event := { turtleId := "scout", name, args := [] }

/-- Two responses come in the other order, and between them and the next call the stream lags. -/
def watcherLooks : List Look :=
  [.waitFor 2 { turtleId := "scout", unread := [watched "first",
      (Response.failure 1 "no").toEvent "scout", watched "second",
      (Response.failure 2 "no").toEvent "scout", watched "third"] },
    .waitFor 9 { turtleId := "scout", unread := [watched "third"], missed := 3 },
    .waitFor 1 { turtleId := "scout", unread := [watched "third"] },
    .waitFor 9 { turtleId := "scout", unread := [watched "third"] },
    .next { turtleId := "scout" }, .next { turtleId := "scout" }]

theorem journal_of_looks_watcher :
    ∃ journal, Journal.Follows watcher [] watcherLooks journal ∧
      journal.map (·.1.name) = ["first", "turtle_response", "second", "turtle_response", "third"] ∧
      Lot.waiting.among journal = [watched "third"] ∧
      Lot.taken.among journal = [watched "first", watched "second"] ∧
      ((Lot.answered.among journal).map Response.ofEvent?).Perm
        [some (Response.failure 2 "no"), some (Response.failure 1 "no")] := by
  have fresh : watcher.backlog = [] := rfl
  obtain ⟨journal, follows, received, waiting, within, taken, answered⟩ :=
    journal_of_looks fresh watcherLooks
  refine ⟨journal, follows, ?_, waiting, taken, answered⟩
  have names := congrArg (List.map (·.name)) received
  rw [List.map_map] at names
  exact names

end Client

end TurtleFleet
