import TurtleFleet.Proofs.Submission

/-! A queue that several threads share. A submission takes its number first and sends its entry
later, and other calls come between the two. But it holds a lock all the while, so that submissions
come one after another, and the answers are those of a desk where each call is made at one go. There
the entries that were returned and those that wait are the submissions, in the order of their numbers,
until the queue ends. -/

namespace TurtleFleet

namespace CommandQueue

variable {C : Type}

/-- Where a submission comes in: at the queue itself or at one of its handles. -/
inductive Hand where
  | queue
  | handle (index : Nat)
deriving DecidableEq, Repr

inductive Note (C : Type) where
  | cloned (source : Hand) (index : Nat)
  | submitted (hand : Hand) (command : C) (id : Nat)
  | popped (oldest? : Option (QueueEntry C))
  | counted (count : Nat)
  | drained (entries : List (QueueEntry C))
  | dropped

/-- Whether the queue is gone after a call. -/
def Note.Ends : Note C → Prop
  | .drained _ | .dropped => True
  | _ => False

/-- The entry of a submission, as its answer tells. -/
def Note.receipt : Note C → List (QueueEntry C)
  | .submitted _ command id => [{ id, command }]
  | _ => []

def Note.returned : Note C → List (QueueEntry C)
  | .popped oldest? => oldest?.toList
  | .drained entries => entries
  | _ => []

def receipts (notes : List (Note C)) : List (QueueEntry C) := notes.flatMap Note.receipt

def returned (notes : List (Note C)) : List (QueueEntry C) := notes.flatMap Note.returned

theorem receipts_concat (notes : List (Note C)) (note : Note C) :
    receipts (notes ++ [note]) = receipts notes ++ note.receipt := by
  simp [receipts]

theorem returned_concat (notes : List (Note C)) (note : Note C) :
    returned (notes ++ [note]) = returned notes ++ note.returned := by
  simp [returned]

theorem returned_append (first second : List (Note C)) :
    returned (first ++ second) = returned first ++ returned second := List.flatMap_append ..

theorem returned_cons (note : Note C) (notes : List (Note C)) :
    returned (note :: notes) = note.returned ++ returned notes := List.flatMap_cons

/-- What the answer to a call tells of the entries that were submitted and returned before it. -/
def Note.Tells (submitted returned : List (QueueEntry C)) : Note C → Prop
  | .cloned .. | .submitted .. => True
  | .popped (some entry) => returned ++ [entry] <+: submitted
  | .popped none => returned = submitted
  | .counted count => returned.length + count = submitted.length
  | .drained entries => returned ++ entries = submitted
  | .dropped => returned <+: submitted

theorem Note.Tells.prefix_of_ends {note : Note C} {submitted returned : List (QueueEntry C)}
    (tells : note.Tells submitted returned) (ends : note.Ends) :
    returned ++ note.returned <+: submitted := by
  cases note with
  | drained entries => exact ⟨[], by rw [List.append_nil]; exact tells⟩
  | dropped => exact (List.append_nil returned).symm ▸ tells
  | cloned | submitted | popped | counted => cases ends

/-! ### Calls at one go -/

theorem pop?_eq_none_iff {queue : CommandQueue C} : queue.pop? = none ↔ queue.entries = [] := by
  unfold pop?
  split <;> simp_all

theorem pop?_eq_some_iff {queue left : CommandQueue C} {entry : QueueEntry C} :
    queue.pop? = some (entry, left) ↔
      queue.entries = entry :: left.entries ∧ left = { queue with entries := left.entries } := by
  unfold pop?
  split
  next empty => simp [empty]
  next oldest rest waiting =>
    rw [waiting, Option.some_inj, Prod.mk.injEq, List.cons.injEq]
    constructor
    · rintro ⟨rfl, rfl⟩
      exact ⟨⟨rfl, rfl⟩, rfl⟩
    · rintro ⟨⟨rfl, rfl⟩, same⟩
      exact ⟨rfl, same.symm⟩

/-- A queue and the handles that were made for it. -/
structure Desk (C : Type) where
  queue : CommandQueue C := {}
  handles : Nat := 0
deriving Repr

namespace Desk

/-- Whether submissions can come in there. A handle outlives its queue. -/
def Holds (desk : Desk C) : Hand → Prop
  | .queue => desk.queue.isOpen = true
  | .handle index => index < desk.handles

/-- What a call answers, and the desk that it leaves. -/
inductive Answers : Desk C → Note C → Desk C → Prop where
  | cloned {desk : Desk C} {source : Hand} (held : desk.Holds source) :
      Answers desk (.cloned source desk.handles) { desk with handles := desk.handles + 1 }
  | submitted {desk : Desk C} {hand : Hand} (held : desk.Holds hand) (command : C) :
      Answers desk (.submitted hand command (desk.queue.submit command).1)
        { desk with queue := (desk.queue.submit command).2 }
  | popped {desk : Desk C} {entry : QueueEntry C} {queue : CommandQueue C}
      (isOpen : desk.queue.isOpen = true) (pop : desk.queue.pop? = some (entry, queue)) :
      Answers desk (.popped (some entry)) { desk with queue }
  | idle {desk : Desk C} (isOpen : desk.queue.isOpen = true) (pop : desk.queue.pop? = none) :
      Answers desk (.popped none) desk
  | counted {desk : Desk C} (isOpen : desk.queue.isOpen = true) :
      Answers desk (.counted desk.queue.entries.length) desk
  | drained {desk : Desk C} (isOpen : desk.queue.isOpen = true) :
      Answers desk (.drained desk.queue.entries) { desk with queue := desk.queue.close }
  | dropped {desk : Desk C} (isOpen : desk.queue.isOpen = true) :
      Answers desk .dropped { desk with queue := desk.queue.close }

/-- The answers to calls that are made one after another. -/
inductive Serves : Desk C → List (Note C) → Desk C → Prop where
  | rest (desk : Desk C) : Serves desk [] desk
  | next {first middle last : Desk C} {note : Note C} {notes : List (Note C)}
      (answers : first.Answers note middle) (later : Serves middle notes last) :
      Serves first (note :: notes) last

theorem Answers.isOpen_iff {desk next : Desk C} {note : Note C}
    (answers : desk.Answers note next) :
    next.queue.isOpen = true ↔ desk.queue.isOpen = true ∧ ¬ note.Ends := by
  cases answers with
  | popped isOpen pop =>
    rw [(pop?_eq_some_iff.mp pop).2]
    simp [Note.Ends]
  | cloned | submitted | idle | counted | drained | dropped =>
    simp [Note.Ends, submit, close]

theorem Serves.append_iff {first last : Desk C} {notes later : List (Note C)} :
    first.Serves (notes ++ later) last ↔
      ∃ middle, first.Serves notes middle ∧ middle.Serves later last := by
  constructor
  · intro serves
    induction notes generalizing first with
    | nil => exact ⟨first, .rest first, serves⟩
    | cons note notes ih =>
      cases serves with
      | next answers rest =>
        obtain ⟨middle, early, late⟩ := ih rest
        exact ⟨middle, .next answers early, late⟩
  · rintro ⟨middle, early, late⟩
    induction early with
    | rest => exact late
    | next answers _ ih => exact .next answers (ih late)

theorem Serves.isOpen {first last : Desk C} {notes : List (Note C)}
    (serves : first.Serves notes last) (isOpen : first.queue.isOpen = true)
    (going : ∀ note ∈ notes, ¬ note.Ends) : last.queue.isOpen = true := by
  induction serves with
  | rest => exact isOpen
  | next answers _ ih =>
    obtain ⟨now, later⟩ := List.forall_mem_cons.mp going
    exact ih (answers.isOpen_iff.mpr ⟨isOpen, now⟩) later

theorem Serves.returned_of_closed {first last : Desk C} {notes : List (Note C)}
    (serves : first.Serves notes last) (closed : first.queue.isOpen = false) :
    returned notes = [] := by
  induction serves with
  | rest => rfl
  | next answers _ ih =>
    have shut := Bool.eq_false_iff.mpr fun isOpen =>
      Bool.eq_false_iff.mp closed (answers.isOpen_iff.mp isOpen).1
    rw [returned_cons, ih shut, List.append_nil]
    cases answers with
    | cloned | submitted => rfl
    | popped isOpen | idle isOpen | counted isOpen | drained isOpen | dropped isOpen =>
      rw [closed] at isOpen
      cases isOpen

structure Books (desk : Desk C) (notes : List (Note C)) : Prop where
  next : desk.queue.nextId = submissionNumber (receipts notes).length
  numbers : receipts notes = numbered 0 ((receipts notes).map (·.command))
  waiting : desk.queue.isOpen = true → returned notes ++ desk.queue.entries = receipts notes

namespace Books

variable {desk next : Desk C} {notes : List (Note C)} {note : Note C}

theorem initial : Books ({} : Desk C) [] where
  next := rfl
  numbers := rfl
  waiting _ := rfl

/-- A call that submits nothing only moves entries from the queue to its caller. -/
theorem pass (books : Books desk notes) (nothing : note.receipt = [])
    (number : next.queue.nextId = desk.queue.nextId)
    (moved : next.queue.isOpen = true →
      desk.queue.isOpen = true ∧ note.returned ++ next.queue.entries = desk.queue.entries) :
    Books next (notes ++ [note]) := by
  have same : receipts (notes ++ [note]) = receipts notes := by
    rw [receipts_concat, nothing, List.append_nil]
  refine ⟨?_, ?_, fun isOpen => ?_⟩
  · rw [same, number, books.next]
  · rw [same, ← books.numbers]
  · obtain ⟨was, entries⟩ := moved isOpen
    rw [same, returned_concat, List.append_assoc, entries, books.waiting was]

theorem step (books : Books desk notes) (answers : desk.Answers note next) :
    Books next (notes ++ [note]) := by
  cases answers with
  | submitted held command =>
    refine ⟨?_, ?_, fun isOpen => ?_⟩
    · simp only [receipts_concat, Note.receipt, submit, books.next, List.length_append,
        List.length_singleton, submissionNumber_succ]
    · rw [receipts_concat, List.map_append, numbered_append, ← books.numbers, List.length_map,
        Nat.zero_add]
      simp only [Note.receipt, submit, books.next, List.map_cons, List.map_nil, numbered]
    · have was : desk.queue.isOpen = true := isOpen
      have entries : (desk.queue.submit command).2.entries =
          desk.queue.entries ++ [{ id := desk.queue.nextId, command }] := by
        simp only [submit, was, ↓reduceIte]
      rw [receipts_concat, returned_concat, entries, ← books.waiting was]
      simp [Note.receipt, Note.returned, submit]
  | popped was pop =>
    obtain ⟨oldest, left⟩ := pop?_eq_some_iff.mp pop
    refine books.pass rfl (by rw [left]) fun _ => ⟨was, oldest.symm⟩
  | cloned => exact books.pass rfl rfl fun isOpen => ⟨isOpen, rfl⟩
  | idle => exact books.pass rfl rfl fun isOpen => ⟨isOpen, rfl⟩
  | counted => exact books.pass rfl rfl fun isOpen => ⟨isOpen, rfl⟩
  | drained | dropped =>
    refine books.pass rfl rfl fun isOpen => ?_
    cases isOpen

theorem of_serves (serves : desk.Serves notes next) {earlier : List (Note C)}
    (books : Books desk earlier) : Books next (earlier ++ notes) := by
  induction serves generalizing earlier with
  | rest => simpa using books
  | next answers _ ih => simpa using ih (books.step answers)

theorem tells (books : Books desk notes) (answers : desk.Answers note next) :
    note.Tells (receipts notes) (returned notes) := by
  cases answers with
  | cloned | submitted => trivial
  | @popped _ left isOpen pop =>
    refine ⟨left.entries, ?_⟩
    rw [List.append_assoc, List.singleton_append, ← (pop?_eq_some_iff.mp pop).1]
    exact books.waiting isOpen
  | idle isOpen pop =>
    have all := books.waiting isOpen
    rwa [pop?_eq_none_iff.mp pop, List.append_nil] at all
  | counted isOpen =>
    rw [Note.Tells, ← List.length_append]
    exact congrArg List.length (books.waiting isOpen)
  | drained isOpen => exact books.waiting isOpen
  | dropped isOpen => exact ⟨_, books.waiting isOpen⟩

end Books

theorem Serves.cut {before after : List (Note C)} {note : Note C} {desk : Desk C}
    (serves : Serves {} (before ++ note :: after) desk) :
    ∃ first middle : Desk C,
      first.Books before ∧ first.Answers note middle ∧ middle.Serves after desk := by
  obtain ⟨first, early, late⟩ := Serves.append_iff.mp serves
  cases late with
  | next answers later => exact ⟨first, _, .of_serves early .initial, answers, later⟩

end Desk

/-- How the answers to the calls at a queue and the entries that still wait fit together. -/
structure Orderly (notes : List (Note C)) (waiting : List (QueueEntry C)) : Prop where
  numbers : (receipts notes).map (·.id) = List.range' 1 (receipts notes).length
  kept : (∀ note ∈ notes, ¬ note.Ends) → returned notes ++ waiting = receipts notes
  told : ∀ before note after, notes = before ++ note :: after →
    note.Tells (receipts before) (returned before)
  ended : ∀ before note after, notes = before ++ note :: after → note.Ends →
    returned notes <+: receipts before ∧ returned after = []

theorem Desk.Serves.orderly {desk : Desk C} {notes : List (Note C)}
    (serves : Serves {} notes desk) (few : (receipts notes).length < word64) :
    Orderly notes desk.queue.entries := by
  have books : desk.Books notes := .of_serves serves .initial
  constructor
  case numbers =>
    rw [books.numbers, length_numbered]
    exact map_id_numbered_of_few (by rwa [List.length_map])
  case kept => exact fun going => books.waiting (serves.isOpen rfl going)
  case told =>
    rintro before note after rfl
    obtain ⟨first, _, known, answers, _⟩ := serves.cut
    exact known.tells answers
  case ended =>
    rintro before note after rfl ends
    obtain ⟨first, middle, known, answers, later⟩ := serves.cut
    have closed : middle.queue.isOpen = false :=
      Bool.eq_false_iff.mpr fun isOpen => (answers.isOpen_iff.mp isOpen).2 ends
    have nothing := later.returned_of_closed closed
    refine ⟨?_, nothing⟩
    rw [returned_append, returned_cons, nothing, List.append_nil]
    exact (known.tells answers).prefix_of_ends ends

/-! ### Calls that interleave -/

/-- The first half of a submission: it takes its number. -/
def takeNumber (queue : CommandQueue C) : Nat × CommandQueue C :=
  (queue.nextId, { queue with nextId := min (queue.nextId + 1) (word64 - 1) })

/-- The second half of a submission: it sends its entry. -/
def send (queue : CommandQueue C) (entry : QueueEntry C) : CommandQueue C :=
  if queue.isOpen then { queue with entries := queue.entries ++ [entry] } else queue

theorem submit_eq (queue : CommandQueue C) (command : C) :
    queue.submit command =
      (queue.takeNumber.1, queue.takeNumber.2.send { id := queue.takeNumber.1, command }) := by
  unfold submit takeNumber send
  cases queue.isOpen <;> rfl

/-- A desk that several threads share. -/
structure SharedDesk (C : Type) extends Desk C where
  /-- The submission that holds the lock: it has its number, but has not yet sent its entry. -/
  sending : Option (Hand × QueueEntry C) := none

namespace SharedDesk

/-- Which calls may be made although a submission holds the lock. A drain needs the lock itself, and
the queue is not dropped while the submission goes through it and not through a handle. -/
def Admits (shared : SharedDesk C) : Note C → Prop
  | .submitted .. => False
  | .drained _ => shared.sending = none
  | .dropped => ∀ entry, shared.sending ≠ some (.queue, entry)
  | _ => True

/-- What happens next, and the answer to a call that it completes. -/
inductive Steps : SharedDesk C → Option (Note C) → SharedDesk C → Prop where
  | number {shared : SharedDesk C} (free : shared.sending = none) (hand : Hand)
      (held : shared.Holds hand) (command : C) :
      Steps shared none { shared with
        queue := shared.queue.takeNumber.2
        sending := some (hand, { id := shared.queue.takeNumber.1, command }) }
  | send {shared : SharedDesk C} {hand : Hand} {command : C} {id : Nat}
      (sending : shared.sending = some (hand, { id, command })) :
      Steps shared (some (.submitted hand command id))
        { shared with queue := shared.queue.send { id, command }, sending := none }
  | call {shared : SharedDesk C} {note : Note C} {desk : Desk C} (admits : shared.Admits note)
      (answers : shared.toDesk.Answers note desk) :
      Steps shared (some note) { shared with toDesk := desk }

/-- The answers in the order in which calls are completed. -/
inductive Runs : SharedDesk C → List (Note C) → SharedDesk C → Prop where
  | rest (shared : SharedDesk C) : Runs shared [] shared
  | next {first middle last : SharedDesk C} {note? : Option (Note C)} {notes : List (Note C)}
      (steps : first.Steps note? middle) (later : Runs middle notes last) :
      Runs first (note?.toList ++ notes) last

end SharedDesk

def Desk.numbered (desk : Desk C) : Desk C := { desk with queue := desk.queue.takeNumber.2 }

theorem Desk.holds_numbered {desk : Desk C} {hand : Hand} :
    desk.numbered.Holds hand ↔ desk.Holds hand := by
  cases hand <;> rfl

/-- To take a number does not interfere with other calls than submissions. -/
theorem Desk.Answers.of_numbered {desk next : Desk C} {note : Note C}
    (answers : desk.numbered.Answers note next) (other : note.receipt = []) :
    ∃ middle : Desk C, desk.Answers note middle ∧ next = middle.numbered ∧
      middle.queue.nextId = desk.queue.nextId := by
  cases answers with
  | submitted => cases other
  | cloned held => exact ⟨_, .cloned (Desk.holds_numbered.mp held), rfl, rfl⟩
  | @popped entry queue isOpen pop =>
    obtain ⟨oldest, left⟩ := pop?_eq_some_iff.mp pop
    have popped : desk.queue.pop? =
        some (entry, { desk.queue with entries := queue.entries }) :=
      pop?_eq_some_iff.mpr ⟨oldest, rfl⟩
    refine ⟨_, .popped isOpen popped, ?_, rfl⟩
    rw [left]
    rfl
  | idle isOpen pop =>
    have empty : desk.queue.pop? = none := pop?_eq_none_iff.mpr (pop?_eq_none_iff.mp pop :)
    exact ⟨_, .idle isOpen empty, rfl, rfl⟩
  | counted isOpen => exact ⟨_, .counted isOpen, rfl, rfl⟩
  | drained isOpen => exact ⟨_, .drained isOpen, rfl, rfl⟩
  | dropped isOpen => exact ⟨_, .dropped isOpen, rfl, rfl⟩

/-- No hand is lost but with the queue itself. -/
theorem Desk.Answers.holds {desk next : Desk C} {note : Note C} (answers : desk.Answers note next)
    {hand : Hand} (held : desk.Holds hand) (kept : hand = .queue → ¬ note.Ends) :
    next.Holds hand := by
  cases hand with
  | queue => exact answers.isOpen_iff.mpr ⟨held, kept rfl⟩
  | handle index =>
    cases answers with
    | cloned => exact Nat.lt_succ_of_lt held
    | _ => exact held

namespace SharedDesk

/-- A desk that is shared, and the desk that is the same but for the submission in between. -/
inductive Agrees : SharedDesk C → Desk C → Prop where
  | idle (desk : Desk C) : Agrees { toDesk := desk } desk
  | sending {desk : Desk C} {hand : Hand} (held : desk.Holds hand) (command : C) :
      Agrees { toDesk := desk.numbered, sending := some (hand, ⟨desk.queue.nextId, command⟩) } desk

/-- A call that is made while a submission holds the lock is none itself, and leaves it its hand. -/
theorem Admits.apart {shared : SharedDesk C} {note : Note C} {hand : Hand} {entry : QueueEntry C}
    (admits : shared.Admits note) (sending : shared.sending = some (hand, entry)) :
    note.receipt = [] ∧ (hand = .queue → ¬ note.Ends) := by
  cases note with
  | submitted => exact admits.elim
  | drained =>
    have free : shared.sending = none := admits
    rw [sending] at free
    cases free
  | dropped => exact ⟨rfl, fun own _ => admits entry (own ▸ sending)⟩
  | cloned | popped | counted => exact ⟨rfl, fun _ => id⟩

/-- A step of a shared desk is a call at one go, or none. -/
theorem Agrees.step {shared next : SharedDesk C} {desk : Desk C} {note? : Option (Note C)}
    (agrees : shared.Agrees desk) (steps : shared.Steps note? next) :
    ∃ middle : Desk C, desk.Serves note?.toList middle ∧ next.Agrees middle := by
  cases agrees with
  | idle =>
    cases steps with
    | number free hand held command => exact ⟨desk, .rest desk, .sending held command⟩
    | send sending => cases sending
    | call admits answers => exact ⟨_, .next answers (.rest _), .idle _⟩
  | sending held command =>
    cases steps with
    | number free => cases free
    | send sending =>
      -- The submission at one go is made now, so that what came between its halves came before it.
      cases sending
      refine ⟨_, .next (.submitted held command) (.rest _), ?_⟩
      rw [submit_eq]
      exact .idle _
    | call admits answers =>
      obtain ⟨other, kept⟩ := admits.apart rfl
      obtain ⟨middle, answered, rfl, number⟩ := answers.of_numbered other
      refine ⟨middle, .next answered (.rest _), ?_⟩
      rw [← number]
      exact .sending (answered.holds held kept) command

/-- Whatever comes between the halves of submissions, each call looks as if made at one go. -/
theorem Runs.serves {shared next : SharedDesk C} {desk : Desk C} {notes : List (Note C)}
    (runs : shared.Runs notes next) (agrees : shared.Agrees desk) :
    ∃ last : Desk C, desk.Serves notes last ∧ next.Agrees last := by
  induction runs generalizing desk with
  | rest => exact ⟨desk, .rest desk, agrees⟩
  | next steps _ ih =>
    obtain ⟨middle, early, agreesNow⟩ := agrees.step steps
    obtain ⟨last, late, agreesLast⟩ := ih agreesNow
    exact ⟨last, Desk.Serves.append_iff.mpr ⟨middle, early, late⟩, agreesLast⟩

variable {shared : SharedDesk C} {desk : Desk C} {notes : List (Note C)}

theorem Agrees.entries (agrees : shared.Agrees desk) :
    shared.queue.entries = desk.queue.entries := by
  cases agrees <;> rfl

theorem Runs.silent {next last : SharedDesk C} (steps : shared.Steps none next)
    (later : next.Runs notes last) : shared.Runs notes last := .next steps later

theorem Runs.noted {next last : SharedDesk C} {note : Note C} (steps : shared.Steps (some note) next)
    (later : next.Runs notes last) : shared.Runs (note :: notes) last := .next steps later

/-- The submission that holds the lock returns the next number and leaves the lock to others. -/
theorem Agrees.finishes (agrees : shared.Agrees desk) (books : desk.Books notes)
    {hand : Hand} {entry : QueueEntry C} (sending : shared.sending = some (hand, entry)) :
    ∃ next, next.sending = none ∧ shared.Runs
      [.submitted hand entry.command (submissionNumber (receipts notes).length)] next := by
  have number : entry.id = submissionNumber (receipts notes).length := by
    cases agrees with
    | idle => cases sending
    | sending held command =>
      cases sending
      exact books.next
  rw [← number]
  exact ⟨_, rfl, .noted (.send sending) (.rest _)⟩

/-- While no submission holds the lock, every hand may submit, and that returns the next number. -/
theorem Agrees.submits (agrees : shared.Agrees desk) (books : desk.Books notes)
    {hand : Hand} (free : shared.sending = none) (held : shared.Holds hand) (command : C) :
    ∃ next, next.sending = none ∧ shared.Runs
      [.submitted hand command (submissionNumber (receipts notes).length)] next := by
  have number := Steps.number free hand held command
  obtain ⟨_, idle, agreesNow⟩ := agrees.step number
  cases idle
  obtain ⟨next, left, runs⟩ := agreesNow.finishes books rfl
  exact ⟨next, left, .silent number runs⟩

/-- However the calls at a queue and its handles interleave, their answers are those to calls that are
made at one go, and the queue is orderly. The next submission returns the next number, whether it is
on its way already or is yet to come, from whichever hand. -/
theorem interleaved_calls_are_orderly (runs : Runs {} notes shared)
    (few : (receipts notes).length < word64 - 1) :
    (∃ desk, Desk.Serves {} notes desk) ∧ Orderly notes shared.queue.entries ∧
      (∀ hand entry, shared.sending = some (hand, entry) →
        ∃ next, next.sending = none ∧ shared.Runs
          [.submitted hand entry.command ((receipts notes).length + 1)] next) ∧
      ∀ hand command, shared.sending = none → shared.Holds hand →
        ∃ next, next.sending = none ∧ shared.Runs
          [.submitted hand command ((receipts notes).length + 1)] next := by
  obtain ⟨desk, serves, agrees⟩ := runs.serves (.idle {})
  have books : desk.Books notes := .of_serves serves .initial
  rw [agrees.entries, ← submissionNumber_of_few few]
  have orderly := serves.orderly (Nat.lt_of_lt_of_le few (Nat.sub_le ..))
  exact ⟨⟨desk, serves⟩, orderly, fun _ _ => agrees.finishes books,
    fun _ command free held => agrees.submits books free held command⟩

/-- Two handles and the queue are used in turn. A pop finds nothing while the first submission is on
its way. Of three entries two are left for the drain, and the last submission comes too late. -/
def rushHour : List (Note String) :=
  [.cloned .queue 0, .popped none, .cloned (.handle 0) 1, .submitted (.handle 0) "move" 1,
    .popped (some ⟨1, "move"⟩), .submitted .queue "turn" 2, .submitted (.handle 1) "dig" 3,
    .counted 2, .drained [⟨2, "turn"⟩, ⟨3, "dig"⟩], .submitted (.handle 1) "place" 4]

/-- Nothing waits when the rush hour is over. -/
def afterRushHour : SharedDesk String where
  queue := { nextId := 5, entries := [], isOpen := false }
  handles := 2

theorem interleaved_calls_are_orderly_rushHour :
    Runs {} rushHour afterRushHour ∧ (receipts rushHour).length < word64 - 1 ∧
      Orderly rushHour [] ∧ ∃ next, next.sending = none ∧
        afterRushHour.Runs [.submitted (.handle 0) "inspect" 5] next := by
  have runs : Runs {} rushHour afterRushHour := by
    refine .noted (.call trivial (.cloned rfl)) ?_
    refine .silent (.number rfl (.handle 0) (by exact Nat.zero_lt_one) "move") ?_
    refine .noted (.call trivial (.idle rfl rfl)) ?_
    refine .noted (.call trivial (.cloned Nat.zero_lt_one)) ?_
    refine .noted (.send rfl) ?_
    refine .silent (.number rfl .queue (by rfl) "turn") ?_
    refine .noted (.call trivial (.popped rfl rfl)) ?_
    refine .noted (.send rfl) ?_
    refine .silent (.number rfl (.handle 1) (by exact Nat.one_lt_two) "dig") ?_
    refine .noted (.send rfl) ?_
    refine .noted (.call trivial (.counted rfl)) ?_
    refine .noted (.call rfl (.drained rfl)) ?_
    refine .silent (.number rfl (.handle 1) (by exact Nat.one_lt_two) "place") ?_
    exact .noted (.send rfl) (.rest _)
  have few : (receipts rushHour).length < word64 - 1 := by decide
  obtain ⟨_, orderly, _, further⟩ := interleaved_calls_are_orderly runs few
  exact ⟨runs, few, orderly, further (.handle 0) "inspect" rfl Nat.zero_lt_two⟩

end SharedDesk

end CommandQueue

end TurtleFleet
