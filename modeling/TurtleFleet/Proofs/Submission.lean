import TurtleFleet.Fleet.Basic

/-! Submissions: whichever way they come in, a registered turtle appends those that are addressed to
its registration to its queue, in their order, and nothing else changes. -/

namespace TurtleFleet

variable {C M : Type}

/-- The commands among some submissions that are submitted through a handle. -/
def addressed (handle : Submitter) (arrivals : List (Submitter × C)) : List C :=
  (arrivals.filter (·.1 = handle)).map (·.2)

@[simp] theorem addressed_nil (handle : Submitter) :
    addressed handle ([] : List (Submitter × C)) = [] := rfl

theorem addressed_append (handle : Submitter) (first second : List (Submitter × C)) :
    addressed handle (first ++ second) = addressed handle first ++ addressed handle second := by
  simp [addressed]

theorem addressed_cons (handle : Submitter) (arrival : Submitter × C)
    (rest : List (Submitter × C)) :
    addressed handle (arrival :: rest) =
      if arrival.1 = handle then arrival.2 :: addressed handle rest else addressed handle rest := by
  by_cases same : arrival.1 = handle <;> simp [addressed, same]

namespace Member

def takeIn (member : Member C) (commands : List C) : Member C :=
  { member with queue := commands.foldl (fun queue command => (queue.submit command).2) member.queue }

@[simp] theorem takeIn_nil (member : Member C) : member.takeIn [] = member := rfl

theorem takeIn_cons (member : Member C) (command : C) (commands : List C) :
    member.takeIn (command :: commands) = (member.takeIn [command]).takeIn commands := rfl

theorem takeIn_append (member : Member C) (first second : List C) :
    member.takeIn (first ++ second) = (member.takeIn first).takeIn second := by
  simp [takeIn, List.foldl_append]

@[simp] theorem takeIn_turtle (member : Member C) (commands : List C) :
    (member.takeIn commands).turtle = member.turtle := rfl

@[simp] theorem takeIn_registration (member : Member C) (commands : List C) :
    (member.takeIn commands).registration = member.registration := rfl

/-- The handle of the registration of a member under some id. -/
def handle (member : Member C) (id : TurtleId) : Submitter :=
  { turtleId := id, registration := member.registration }

@[simp] theorem handle_takeIn (member : Member C) (id : TurtleId) (commands : List C) :
    (member.takeIn commands).handle id = member.handle id := rfl

end Member

namespace Fleet

theorem holder?_of_handle {fleet : Fleet C M} {id : TurtleId} {member : Member C}
    (found : fleet.members.get? id = some member) :
    fleet.holder? (member.handle id) = some member := by
  simp [holder?, Member.handle, found]

theorem holder?_of_missing {fleet : Fleet C M} {handle : Submitter}
    (missing : fleet.members.get? handle.turtleId = none) : fleet.holder? handle = none := by
  rw [holder?, missing]
  rfl

/-- A handle is in force exactly if it is the handle of the member under its turtle id. -/
theorem holder?_eq_some_iff {fleet : Fleet C M} {handle : Submitter} {member : Member C} :
    fleet.holder? handle = some member ↔
      fleet.members.get? handle.turtleId = some member ∧ member.handle handle.turtleId = handle := by
  obtain ⟨id, registration⟩ := handle
  simp [holder?, Option.filter_eq_some_iff, Member.handle]

theorem get?_submitVia (fleet : Fleet C M) (submitter : Submitter) (command : C) (id : TurtleId) :
    (fleet.submitVia submitter command).2.members.get? id =
      (fleet.members.get? id).map fun member =>
        member.takeIn (addressed (member.handle id) [(submitter, command)]) := by
  rcases held : fleet.holder? submitter with _ | holder
  · have kept : (fleet.submitVia submitter command).2.members = fleet.members := by
      simp only [submitVia, held]
    rw [kept]
    rcases found : fleet.members.get? id with _ | member
    · rfl
    · have apart : submitter ≠ member.handle id := by
        intro same
        rw [same, holder?_of_handle found] at held
        cases held
      simp [addressed_cons, apart]
  · obtain ⟨found, own⟩ := holder?_eq_some_iff.mp held
    have left : (fleet.submitVia submitter command).2.members =
        fleet.members.insert submitter.turtleId (holder.takeIn [command]) := by
      simp only [submitVia, held]
      rfl
    rw [left, Keyed.get?_insert]
    by_cases same : id = submitter.turtleId
    · subst same
      simp [found, own, addressed_cons]
    · rcases other : fleet.members.get? id with _ | member
      · simp [same]
      · have apart : submitter ≠ member.handle id := fun equal => same (by rw [equal]; rfl)
        simp [same, addressed_cons, apart]

theorem get?_takeIn (fleet : Fleet C M) (arrivals : List (Submitter × C)) (id : TurtleId) :
    (fleet.takeIn arrivals).members.get? id =
      (fleet.members.get? id).map fun member =>
        member.takeIn (addressed (member.handle id) arrivals) := by
  induction arrivals generalizing fleet with
  | nil => cases found : fleet.members.get? id <;> simp [takeIn, found]
  | cons arrival rest ih =>
    have step : fleet.takeIn (arrival :: rest) =
        (fleet.submitVia arrival.1 arrival.2).2.takeIn rest := rfl
    rw [step, ih, get?_submitVia, Option.map_map]
    congr 1
    funext member
    rw [Function.comp_apply, Member.handle_takeIn, ← Member.takeIn_append, ← addressed_append,
      List.singleton_append]

theorem length_submitVia (fleet : Fleet C M) (submitter : Submitter) (command : C) :
    (fleet.submitVia submitter command).2.members.entries.length =
      fleet.members.entries.length := by
  rcases held : fleet.holder? submitter with _ | holder
  · simp only [submitVia, held]
  · obtain ⟨found, _⟩ := holder?_eq_some_iff.mp held
    simp only [submitVia, held, setMember, Keyed.length_insert, found, Option.isSome_some, ↓reduceIte]

theorem length_takeIn (fleet : Fleet C M) (arrivals : List (Submitter × C)) :
    (fleet.takeIn arrivals).members.entries.length = fleet.members.entries.length := by
  induction arrivals generalizing fleet with
  | nil => rfl
  | cons arrival rest ih =>
    exact (ih (fleet.submitVia arrival.1 arrival.2).2).trans (fleet.length_submitVia _ _)

theorem submitVia_eq (fleet : Fleet C M) (submitter : Submitter) (command : C) :
    ∃ members retired, (fleet.submitVia submitter command).2 = { fleet with members, retired } := by
  unfold submitVia
  split
  · exact ⟨_, fleet.retired, rfl⟩
  · exact ⟨fleet.members, _, rfl⟩

theorem takeIn_eq (fleet : Fleet C M) (arrivals : List (Submitter × C)) :
    ∃ members retired, fleet.takeIn arrivals = { fleet with members, retired } := by
  induction arrivals generalizing fleet with
  | nil => exact ⟨fleet.members, fleet.retired, rfl⟩
  | cons arrival rest ih =>
    obtain ⟨members, retired, first⟩ := fleet.submitVia_eq arrival.1 arrival.2
    obtain ⟨members, retired, later⟩ := ih (fleet.submitVia arrival.1 arrival.2).2
    refine ⟨members, retired, ?_⟩
    have step : fleet.takeIn (arrival :: rest) =
        (fleet.submitVia arrival.1 arrival.2).2.takeIn rest := rfl
    rw [step, later, first]

end Fleet

/-! ### The numbers of submissions -/

/-- The number of a submission that comes after so many others. -/
def submissionNumber (earlier : Nat) : Nat := min (firstSubmission + earlier) (word64 - 1)

theorem submissionNumber_lt (earlier : Nat) : submissionNumber earlier < word64 := by
  unfold submissionNumber word64
  omega

theorem submissionNumber_of_few {earlier : Nat} (few : earlier < word64 - 1) :
    submissionNumber earlier = earlier + 1 := by
  unfold submissionNumber firstSubmission
  omega

theorem submissionNumber_succ (earlier : Nat) :
    min (submissionNumber earlier + 1) (word64 - 1) = submissionNumber (earlier + 1) := by
  unfold submissionNumber word64
  omega

/-- The entries of some commands that are submitted one after another, after so many others. -/
def numbered (earlier : Nat) : List C → List (QueueEntry C)
  | [] => []
  | command :: commands =>
    { id := submissionNumber earlier, command } :: numbered (earlier + 1) commands

@[simp] theorem length_numbered (earlier : Nat) (commands : List C) :
    (numbered earlier commands).length = commands.length := by
  induction commands generalizing earlier with
  | nil => rfl
  | cons command rest ih => simp [numbered, ih]

theorem numbered_append (earlier : Nat) (first second : List C) :
    numbered earlier (first ++ second) =
      numbered earlier first ++ numbered (earlier + first.length) second := by
  induction first generalizing earlier with
  | nil => simp [numbered]
  | cons command rest ih =>
    simp only [List.cons_append, numbered, ih, List.length_cons]
    rw [Nat.add_right_comm, Nat.add_assoc]

theorem map_id_numbered (earlier : Nat) (commands : List C) :
    (numbered earlier commands).map (·.id) =
      (List.range' earlier commands.length).map submissionNumber := by
  induction commands generalizing earlier with
  | nil => rfl
  | cons command rest ih => simp [numbered, ih, List.range'_succ]

theorem map_id_numbered_of_few {commands : List C} (few : commands.length < word64) :
    (numbered 0 commands).map (·.id) = List.range' 1 commands.length := by
  rw [map_id_numbered, List.range'_eq_map_range, List.range'_eq_map_range, List.map_map]
  apply List.map_congr_left
  intro index listed
  have small : index < word64 - 1 := by
    have := List.mem_range.mp listed
    unfold word64 at *
    omega
  rw [Function.comp_apply, Nat.zero_add, submissionNumber_of_few small, Nat.add_comm]

theorem CommandQueue.submit_open {queue : CommandQueue C} {earlier : Nat}
    (next : queue.nextId = submissionNumber earlier) (isOpen : queue.isOpen = true) (command : C) :
    (queue.submit command).2 = { queue with
      nextId := submissionNumber (earlier + 1)
      entries := queue.entries ++ numbered earlier [command] } := by
  simp only [submit, isOpen, ↓reduceIte, next, submissionNumber_succ, numbered]

/-- Commands that come in are numbered one after another and wait behind the others. -/
theorem Member.takeIn_open {member : Member C} {earlier : Nat}
    (next : member.queue.nextId = submissionNumber earlier) (isOpen : member.queue.isOpen = true)
    (commands : List C) :
    member.takeIn commands = { member with queue := { member.queue with
      nextId := submissionNumber (earlier + commands.length)
      entries := member.queue.entries ++ numbered earlier commands } } := by
  induction commands generalizing member earlier with
  | nil => simp [takeIn_nil, ← next, numbered]
  | cons command rest ih =>
    have first : member.takeIn [command] = { member with queue := { member.queue with
        nextId := submissionNumber (earlier + 1)
        entries := member.queue.entries ++ numbered earlier [command] } } :=
      congrArg (fun queue => { member with queue }) (CommandQueue.submit_open next isOpen command)
    have nextLater : (member.takeIn [command]).queue.nextId = submissionNumber (earlier + 1) := by
      rw [first]
    have isOpenLater : (member.takeIn [command]).queue.isOpen = true := by
      rw [first]
      exact isOpen
    rw [takeIn_cons, ih nextLater isOpenLater, first]
    simp [numbered, Nat.add_assoc, Nat.add_comm 1]

end TurtleFleet
