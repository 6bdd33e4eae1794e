import TurtleFleet.Proofs.Visit

/-! Tidings: what the arguments of a response event say. Success and failure share one list of
arguments, in which the truth value behind the number decides how the rest is meant; a failure that is
told without a text has the empty one. Reading takes what is told and nothing else, and whatever it
takes is told again by the arguments that are written for it. -/

namespace TurtleFleet

namespace Response

/-- The arguments begin with a number that fits its word and a truth value. -/
def Headed (args : List Json) : Prop :=
  ∃ (id : Nat) (success : Bool) (rest : List Json),
    id < word64 ∧ args = .int id :: .bool success :: rest

/-- What some arguments say of a command. -/
inductive Told : List Json → Response → Prop where
  | success {id : Nat} (small : id < word64) (payload : List Json) :
      Told (.int id :: .bool true :: payload) { id, success := true, payload }
  | failure {id : Nat} (small : id < word64) (text : String) (unread : List Json) :
      Told (.int id :: .bool false :: .str text :: unread) (failure id text)
  | unexplained {id : Nat} (small : id < word64) {unread : List Json}
      (wordless : ∀ text, unread.head? ≠ some (.str text)) :
      Told (.int id :: .bool false :: unread) (Response.failure id "")

variable {args : List Json} {response : Response}

theorem Told.genuine (told : Told args response) : response.Genuine := by
  cases told with
  | success small payload => exact genuine_ofResult small (.ok payload)
  | failure small text unread => exact genuine_failure small text
  | unexplained small wordless => exact genuine_failure small ""

theorem Told.headed (told : Told args response) : Headed args := by
  cases told with
  | success small payload => exact ⟨_, true, payload, small, rfl⟩
  | failure small text unread => exact ⟨_, false, .str text :: unread, small, rfl⟩
  | unexplained small wordless => exact ⟨_, false, _, small, rfl⟩

/-- Arguments that are headed say something, whatever follows. -/
theorem Headed.told (headed : Headed args) : ∃ response, Told args response := by
  obtain ⟨id, success, rest, small, rfl⟩ := headed
  cases success with
  | true => exact ⟨_, .success small rest⟩
  | false =>
    by_cases worded : ∃ text, rest.head? = some (.str text)
    · obtain ⟨text, first⟩ := worded
      obtain ⟨unread, rfl⟩ := List.head?_eq_some_iff.mp first
      exact ⟨_, .failure small text unread⟩
    · exact ⟨_, .unexplained small (not_exists.mp worded)⟩

/-! ### Reading -/

theorem ofArgs?_of_told (told : Told args response) : ofArgs? args = some response := by
  have fits {id : Nat} (small : id < word64) : 0 ≤ (id : Int) ∧ (id : Int) < word64 :=
    ⟨Int.natCast_nonneg id, Int.ofNat_lt.mpr small⟩
  cases told with
  | success small payload =>
    rw [ofArgs?, if_pos (fits small)]
    rfl
  | failure small text unread =>
    rw [ofArgs?, if_pos (fits small)]
    rfl
  | @unexplained id small unread wordless =>
    rw [ofArgs?, if_pos (fits small), Int.toNat_natCast, if_neg Bool.false_ne_true]
    split
    · rename_i text first
      exact absurd first (wordless text)
    · rfl

/-- Whatever is read has a number that fits its word and a truth value in front. -/
theorem headed_of_ofArgs? (read : ofArgs? args = some response) : Headed args := by
  unfold ofArgs? at read
  split at read
  · rename_i id success rest
    split at read
    · rename_i fits
      obtain ⟨number, rfl⟩ := Int.eq_ofNat_of_zero_le fits.1
      exact ⟨number, success, rest, Int.ofNat_lt.mp fits.2, rfl⟩
    · cases read
  · cases read

theorem ofArgs?_eq_some_iff : ofArgs? args = some response ↔ Told args response := by
  refine ⟨fun read => ?_, ofArgs?_of_told⟩
  obtain ⟨known, told⟩ := (headed_of_ofArgs? read).told
  have same : known = response := Option.some.inj ((ofArgs?_of_told told).symm.trans read)
  exact same ▸ told

theorem ofEvent?_eq_some_iff {event : Event} :
    ofEvent? event = some response ↔ event.name = responseEvent ∧ Told event.args response := by
  unfold ofEvent?
  split
  · rename_i named
    rw [ofArgs?_eq_some_iff, and_iff_right named]
  · rename_i foreign
    exact iff_of_false nofun fun told => foreign told.1

theorem ofEvent?_eq_none_iff {event : Event} :
    ofEvent? event = none ↔ event.name ≠ responseEvent ∨ ¬ Headed event.args := by
  rw [Option.eq_none_iff_forall_ne_some]
  constructor
  · intro unread
    by_cases named : event.name = responseEvent
    · refine .inr fun headed => ?_
      obtain ⟨response, told⟩ := headed.told
      exact unread response (ofEvent?_eq_some_iff.mpr ⟨named, told⟩)
    · exact .inl named
  · intro unfit response read
    obtain ⟨named, told⟩ := ofEvent?_eq_some_iff.mp read
    exact unfit.elim (absurd named) (absurd told.headed)

/-- The event of a response carries the whole of it: reading gives back the outcome that was written,
whatever its payload or message. Of any event at all, reading makes nothing exactly if it is not a
response event or does not begin with a number of its word and a truth value. Otherwise it makes of it
what the arguments say, and the event that is written for this is read as the same again. -/
theorem responses_survive_their_events :
    (∀ (turtle : TurtleId) (id : Nat) (result : Except Stop (List Json)), id < word64 →
      ofEvent? ((ofResult id result).toEvent turtle) = some (ofResult id result)) ∧
    ∀ event : Event,
      (ofEvent? event = none ↔ event.name ≠ responseEvent ∨ ¬ Headed event.args) ∧
      ∀ response, ofEvent? event = some response →
        Told event.args response ∧
          ∀ turtle, ofEvent? (response.toEvent turtle) = some response := by
  refine ⟨fun turtle id result small => ?_, fun event => ⟨ofEvent?_eq_none_iff, fun response read => ?_⟩⟩
  · exact ofEvent?_toEvent (genuine_ofResult small result) turtle
  · have told := (ofEvent?_eq_some_iff.mp read).2
    exact ⟨told, fun turtle => ofEvent?_toEvent told.genuine turtle⟩

/-- A failure whose text does not stand where it is looked for. -/
def mumbled : Event where
  turtleId := "scout"
  name := responseEvent
  args := [.int 7, .bool false, .null, .str "Out of fuel"]

theorem responses_survive_their_events_mumbled :
    word64 - 1 < word64 ∧
      ofEvent? ((ofResult (word64 - 1) (.error (.rejected "Out of fuel"))).toEvent "scout") =
        some (failure (word64 - 1) "Out of fuel") ∧
      ofEvent? mumbled = some (failure 7 "") ∧
      (failure 7 "").toArgs = [.int 7, .bool false, .str ""] ∧
      ofEvent? ((failure 7 "").toEvent "scout") = some (failure 7 "") ∧
      ofEvent? { mumbled with args := [.int word64, .bool true] } = none ∧
      ¬ Headed [.int (-1), .bool true] := by
  have small : word64 - 1 < word64 := by decide
  obtain ⟨back, others⟩ := responses_survive_their_events
  have read : ofEvent? mumbled = some (failure 7 "") := rfl
  have unread : ofEvent? { mumbled with args := [.int (-1), .bool true] } = none := rfl
  exact ⟨small, back "scout" _ _ small, read, rfl, ((others mumbled).2 _ read).2 "scout", rfl,
    ((others _).1.mp unread).resolve_left (absurd rfl)⟩

end Response

end TurtleFleet
