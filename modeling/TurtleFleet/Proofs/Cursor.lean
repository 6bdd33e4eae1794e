import TurtleFleet.Proofs.Turns

/-! The cursor of the visits. A turtle has a distance from the cursor, counted through the names in
their cyclic order, and the order of the visits is the order of these distances. When the cursor
moves on to a turtle that is not behind a given one, the given one comes nearer. -/

namespace TurtleFleet

/-- How many of the names are below the given one. -/
def rank (ids : List TurtleId) (name : TurtleId) : Nat := ids.countP (· < name)

/-- How far it is from one place to another on a round of so many places. -/
def stepsBetween (start place places : Nat) : Nat :=
  if start ≤ place then place - start else place + places - start

/-- Moving on to a place that is passed on the way, and is not where the way begins, shortens it. -/
theorem stepsBetween_lt {start between place places : Nat} (last : place < places)
    (moved : 0 < stepsBetween start between places)
    (passed : stepsBetween start between places ≤ stepsBetween start place places) :
    stepsBetween between place places < stepsBetween start place places := by
  by_cases onward : start ≤ between <;> by_cases further : start ≤ place <;>
    by_cases ahead : between ≤ place <;>
    simp only [stepsBetween, onward, further, ahead, ↓reduceIte] at moved passed ⊢ <;> omega

/-! ### Names in ascending order -/

section

variable {ids : List TurtleId}

theorem rank_lt {name : TurtleId} (listed : name ∈ ids) : rank ids name < ids.length := by
  refine Nat.lt_of_le_of_ne List.countP_le_length fun all => ?_
  exact String.lt_irrefl name (of_decide_eq_true (List.countP_eq_length.mp all name listed))

theorem rank_append (first second : List TurtleId) (name : TurtleId) :
    rank (first ++ second) name = rank first name + rank second name :=
  List.countP_append

theorem rank_of_below {name : TurtleId} (below : ∀ id ∈ ids, id < name) :
    rank ids name = ids.length :=
  List.countP_eq_length.mpr fun id listed => by simpa using below id listed

theorem rank_of_above {name : TurtleId} (above : ∀ id ∈ ids, ¬ id < name) : rank ids name = 0 :=
  List.countP_eq_zero.mpr fun id listed => by simpa using above id listed

theorem idxOf_eq_rank (ascending : ids.Pairwise (· < ·)) {name : TurtleId} (listed : name ∈ ids) :
    ids.idxOf name = rank ids name := by
  induction ids with
  | nil => cases listed
  | cons head rest ih =>
    obtain ⟨least, later⟩ := List.pairwise_cons.mp ascending
    rcases List.mem_cons.mp listed with same | behind
    · subst same
      have above : ∀ id ∈ name :: rest, ¬ id < name := by
        intro id member
        rcases List.mem_cons.mp member with equal | member
        · exact equal ▸ String.lt_irrefl name
        · exact String.lt_asymm (least id member)
      rw [List.idxOf_cons_self, rank_of_above above]
    · have before : head < name := least name behind
      have apart : head ≠ name := fun equal => String.lt_irrefl name (equal ▸ before)
      rw [List.idxOf_cons, beq_false_of_ne apart, cond_false, ih later behind, rank, rank,
        List.countP_cons_of_pos (by simpa using before)]

theorem takeWhile_eq_filter (ascending : ids.Pairwise (· < ·)) (cursor : TurtleId) :
    ids.takeWhile (· < cursor) = ids.filter (· < cursor) := by
  induction ids with
  | nil => rfl
  | cons head rest ih =>
    obtain ⟨least, later⟩ := List.pairwise_cons.mp ascending
    by_cases below : head < cursor
    · rw [List.takeWhile_cons_of_pos (by simpa using below),
        List.filter_cons_of_pos (by simpa using below), ih later]
    · have above : ∀ name ∈ head :: rest, ¬ decide (name < cursor) = true := by
        intro name listed before
        have before := of_decide_eq_true before
        rcases List.mem_cons.mp listed with same | behind
        · exact below (same ▸ before)
        · exact below (String.lt_trans (least name behind) before)
      rw [List.takeWhile_cons_of_neg (by simpa using below), List.filter_eq_nil_iff.mpr above]

theorem dropWhile_eq_filter (ascending : ids.Pairwise (· < ·)) (cursor : TurtleId) :
    ids.dropWhile (· < cursor) = ids.filter fun id => !decide (id < cursor) := by
  induction ids with
  | nil => rfl
  | cons head rest ih =>
    obtain ⟨least, later⟩ := List.pairwise_cons.mp ascending
    by_cases below : head < cursor
    · rw [List.dropWhile_cons_of_pos (by simpa using below),
        List.filter_cons_of_neg (by simpa using below), ih later]
    · have above : ∀ name ∈ head :: rest, (!decide (name < cursor)) = true := by
        intro name listed
        rcases List.mem_cons.mp listed with same | behind
        · simpa [same] using below
        · have after : ¬ name < cursor := fun before =>
            below (String.lt_trans (least name behind) before)
          simpa using after
      rw [List.dropWhile_cons_of_neg (by simpa using below), List.filter_eq_self.mpr above]

theorem mem_takeWhile_iff (ascending : ids.Pairwise (· < ·)) (cursor : TurtleId) {name : TurtleId} :
    name ∈ ids.takeWhile (· < cursor) ↔ name ∈ ids ∧ name < cursor := by
  rw [takeWhile_eq_filter ascending, List.mem_filter, decide_eq_true_iff]

theorem mem_dropWhile_iff (ascending : ids.Pairwise (· < ·)) (cursor : TurtleId) {name : TurtleId} :
    name ∈ ids.dropWhile (· < cursor) ↔ name ∈ ids ∧ ¬ name < cursor := by
  rw [dropWhile_eq_filter ascending, List.mem_filter, Bool.not_eq_true', decide_eq_false_iff_not]

/-- The place of a name in the order of the visits is its distance from the cursor. -/
theorem idxOf_rotateTo (ascending : ids.Pairwise (· < ·)) (cursor : Option TurtleId)
    {name : TurtleId} (listed : name ∈ ids) :
    (rotateTo cursor ids).idxOf name =
      stepsBetween ((cursor.map (rank ids)).getD 0) (rank ids name) ids.length := by
  cases cursor with
  | none => simpa [rotateTo, stepsBetween] using idxOf_eq_rank ascending listed
  | some cursor =>
    -- the names below the cursor and the others
    obtain ⟨low, isLow⟩ : ∃ low, low = ids.takeWhile (· < cursor) := ⟨_, rfl⟩
    obtain ⟨high, isHigh⟩ : ∃ high, high = ids.dropWhile (· < cursor) := ⟨_, rfl⟩
    have whole : low ++ high = ids := by
      rw [isLow, isHigh]
      exact List.takeWhile_append_dropWhile
    have below : ∀ id ∈ low, id < cursor := fun id member =>
      ((mem_takeWhile_iff ascending cursor).mp (isLow ▸ member)).2
    have above : ∀ id ∈ high, ¬ id < cursor := fun id member =>
      ((mem_dropWhile_iff ascending cursor).mp (isHigh ▸ member)).2
    have ascendingLow : low.Pairwise (· < ·) := by
      rw [isLow]
      exact ascending.sublist (List.takeWhile_sublist _)
    have ascendingHigh : high.Pairwise (· < ·) := by
      rw [isHigh]
      exact ascending.sublist (List.dropWhile_sublist _)
    have turned : rotateTo (some cursor) ids = high ++ low := by rw [rotateTo, isLow, isHigh]
    have startsAt : rank ids cursor = low.length := by
      rw [← whole, rank_append, rank_of_below below, rank_of_above above, Nat.add_zero]
    have places : ids.length = low.length + high.length := by rw [← whole, List.length_append]
    rw [turned, Option.map_some, Option.getD_some, startsAt, places, List.idxOf_append]
    by_cases before : name < cursor
    · have inLow : name ∈ low := isLow ▸ (mem_takeWhile_iff ascending cursor).mpr ⟨listed, before⟩
      have notHigh : name ∉ high := fun member => above name member before
      have aboveName : ∀ id ∈ high, ¬ id < name := fun id member early =>
        above id member (String.lt_trans early before)
      have place : rank ids name = low.idxOf name := by
        rw [← whole, rank_append, rank_of_above aboveName, idxOf_eq_rank ascendingLow inLow,
          Nat.add_zero]
      have short := List.idxOf_lt_length_of_mem inLow
      rw [if_neg notHigh, place, stepsBetween]
      split <;> omega
    · have inHigh : name ∈ high :=
        isHigh ▸ (mem_dropWhile_iff ascending cursor).mpr ⟨listed, before⟩
      have belowName : ∀ id ∈ low, id < name := fun id member =>
        Std.lt_of_lt_of_le (below id member) (Std.not_lt.mp before)
      have place : rank ids name = low.length + high.idxOf name := by
        rw [← whole, rank_append, rank_of_below belowName, idxOf_eq_rank ascendingHigh inHigh]
      rw [if_pos inHigh, place, stepsBetween]
      split <;> omega

end

/-- The first of some names that are listed in an order comes before the others. -/
theorem idxOf_le_of_sublist {first : TurtleId} {others order : List TurtleId}
    (listed : (first :: others).Sublist order) (distinct : order.Nodup) {name : TurtleId}
    (member : name ∈ first :: others) : order.idxOf first ≤ order.idxOf name := by
  induction order with
  | nil => cases listed
  | cons head rest ih =>
    obtain ⟨fresh, later⟩ := List.nodup_cons.mp distinct
    cases listed with
    | cons _ listed =>
      have apart {other : TurtleId} (behind : other ∈ rest) : head ≠ other :=
        fun same => fresh (same ▸ behind)
      rw [List.idxOf_cons, List.idxOf_cons,
        beq_false_of_ne (apart (listed.subset (List.mem_cons_self ..))),
        beq_false_of_ne (apart (listed.subset member))]
      exact Nat.succ_le_succ (ih listed later)
    | cons_cons _ listed =>
      rw [List.idxOf_cons_self]
      exact Nat.zero_le _

namespace Fleet

variable {C M : Type}

/-- How many turtles stand between the cursor and a turtle, in the cyclic order of the names. -/
def distance (fleet : Fleet C M) (id : TurtleId) : Nat :=
  stepsBetween ((fleet.cursor.map (rank fleet.turtleIds)).getD 0) (rank fleet.turtleIds id)
    fleet.turtleIds.length

theorem mem_turtleIds (fleet : Fleet C M) (id : TurtleId) :
    id ∈ fleet.turtleIds ↔ (fleet.members.get? id).isSome :=
  fleet.members.mem_keys_iff id

/-- A tick visits the turtles in the order of their distances from the cursor. -/
theorem idxOf_visitOrder (fleet : Fleet C M) {id : TurtleId} (listed : id ∈ fleet.turtleIds) :
    fleet.visitOrder.idxOf id = fleet.distance id :=
  idxOf_rotateTo fleet.members.keys_pairwise fleet.cursor listed

theorem distance_lt (fleet : Fleet C M) {id : TurtleId} (listed : id ∈ fleet.turtleIds) :
    fleet.distance id < fleet.turtleIds.length := by
  have permuted := rotateTo_perm fleet.cursor fleet.turtleIds
  rw [← idxOf_visitOrder fleet listed, ← permuted.length_eq]
  exact List.idxOf_lt_length_of_mem (permuted.mem_iff.mpr listed)

/-- If the cursor moves on to the first of some turtles, and not from the turtle where it stands,
then each of them comes nearer. -/
theorem distance_lt_of_cursor {before after : Fleet C M} (same : after.turtleIds = before.turtleIds)
    {first : TurtleId} {others : List TurtleId} (moved : after.cursor = some first)
    (behind : (first :: others).Sublist before.visitOrder.tail) {id : TurtleId}
    (member : id ∈ first :: others) : after.distance id < before.distance id := by
  have listed {other : TurtleId} (member : other ∈ first :: others) : other ∈ before.turtleIds :=
    (rotateTo_perm _ _).mem_iff.mp (List.mem_of_mem_tail (behind.subset member))
  have isListed := listed (List.mem_cons_self ..)
  have passed := idxOf_le_of_sublist (behind.trans (List.tail_sublist _)) before.visitOrder_nodup
    member
  have later : 0 < before.visitOrder.idxOf first := by
    have inTail := behind.subset (List.mem_cons_self ..)
    have distinct := before.visitOrder_nodup
    generalize before.visitOrder = order at inTail distinct ⊢
    cases order with
    | nil => cases inTail
    | cons head rest =>
      have apart : head ≠ first := fun same => (List.nodup_cons.mp distinct).1 (same ▸ inTail)
      rw [List.idxOf_cons, beq_false_of_ne apart]
      exact Nat.succ_pos _
  rw [idxOf_visitOrder before isListed] at later passed
  rw [idxOf_visitOrder before (listed member)] at passed
  rw [distance, same, moved, Option.map_some, Option.getD_some]
  exact stepsBetween_lt (rank_lt (listed member)) later passed

end Fleet

end TurtleFleet
