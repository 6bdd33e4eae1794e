import Mathlib.Data.List.Forall2
import Mathlib.Data.List.Induction
import Mathlib.Data.List.TakeWhile
import Mathlib.Data.Nat.Digits.Defs
import TurtleFleet.Settings.Environment

/-! Spelling: how the values of settings are written. Around a word there may be white space. A switch
is one of eight words, in which each ASCII letter may be a capital; a count is an optional plus sign and
decimal ASCII digits, also with zeros in front, whose number is below a bound. Each of these is said
without the reader, and the reader takes just that. -/

namespace TurtleFleet

namespace Text

/-! ### White space -/

/-- Nothing but white space. -/
def Blank (text : String) : Prop := ∀ c ∈ text.toList, c ∈ blanks

instance (text : String) : Decidable (Blank text) := List.decidableBAll (· ∈ blanks) text.toList

/-- Some characters without white space at their ends. -/
structure Bare (cs : List Char) : Prop where
  first : ∀ c, cs.head? = some c → c ∉ blanks
  last : ∀ c, cs.getLast? = some c → c ∉ blanks

/-- A text is a bare word between white space. -/
def Holds (text word : String) : Prop :=
  ∃ lead tail, text.toList = lead ++ word.toList ++ tail ∧ (∀ c ∈ lead, c ∈ blanks) ∧
    (∀ c ∈ tail, c ∈ blanks) ∧ Bare word.toList

theorem isBlank_iff {c : Char} : isBlank c = true ↔ c ∈ blanks := List.contains_iff_mem

theorem isBlankText_iff {text : String} : isBlankText text = true ↔ Blank text := by
  simp only [isBlankText, List.all_eq_true, isBlank_iff, Blank]

/-- What is dropped from the front ends before the first character that stays. -/
theorem dropWhile_isBlank {lead rest : List Char} (white : ∀ c ∈ lead, c ∈ blanks)
    (first : ∀ c, rest.head? = some c → c ∉ blanks) : (lead ++ rest).dropWhile isBlank = rest := by
  rw [List.dropWhile_append_of_pos fun c listed => isBlank_iff.mpr (white c listed)]
  cases rest with
  | nil => rfl
  | cons c rest => exact List.dropWhile_cons_of_neg (mt isBlank_iff.mp (first c rfl))

theorem head?_dropWhile_isBlank {cs : List Char} {c : Char}
    (first : (cs.dropWhile isBlank).head? = some c) : c ∉ blanks := by
  have kept := List.head?_dropWhile_not isBlank cs
  rw [first] at kept
  exact fun white => Bool.false_ne_true (kept.symm.trans (isBlank_iff.mpr white))

theorem blank_of_mem_takeWhile {cs : List Char} {c : Char} (listed : c ∈ cs.takeWhile isBlank) :
    c ∈ blanks :=
  isBlank_iff.mp (List.mem_takeWhile_imp listed)

theorem trimChars_of_bare {lead word tail : List Char} (before : ∀ c ∈ lead, c ∈ blanks)
    (after : ∀ c ∈ tail, c ∈ blanks) (bare : Bare word) :
    trimChars (lead ++ word ++ tail) = word := by
  have behind : ∀ c ∈ tail.reverse, c ∈ blanks := fun c listed => after c (List.mem_reverse.mp listed)
  have backwards : (tail.reverse ++ word.reverse).dropWhile isBlank = word.reverse :=
    dropWhile_isBlank behind fun c last => bare.last c (List.head?_reverse.symm.trans last)
  rw [trimChars, List.append_assoc]
  rcases List.eq_nil_or_concat word with rfl | ⟨_, _, some⟩
  · have white : ∀ c ∈ lead ++ ([] ++ tail), isBlank c = true := fun c listed =>
      isBlank_iff.mpr ((List.mem_append.mp listed).elim (before c) (after c))
    rw [List.dropWhile_eq_nil_iff.mpr white]
    rfl
  · have front : ((lead ++ (word ++ tail)).dropWhile isBlank) = word ++ tail := by
      refine dropWhile_isBlank before fun c first => bare.first c ?_
      rwa [List.head?_append_of_ne_nil _ (by simp [some])] at first
    rw [front, List.reverse_append, backwards, List.reverse_reverse]

/-- Trimming leaves some characters, and takes white space on both sides. -/
theorem exists_trimChars (cs : List Char) :
    ∃ lead tail, cs = lead ++ trimChars cs ++ tail ∧ (∀ c ∈ lead, c ∈ blanks) ∧
      (∀ c ∈ tail, c ∈ blanks) ∧ Bare (trimChars cs) := by
  have rest : trimChars cs ++ ((cs.dropWhile isBlank).reverse.takeWhile isBlank).reverse =
      cs.dropWhile isBlank := by
    rw [trimChars, ← List.reverse_append, List.takeWhile_append_dropWhile, List.reverse_reverse]
  refine ⟨cs.takeWhile isBlank, ((cs.dropWhile isBlank).reverse.takeWhile isBlank).reverse, ?_,
    fun c => blank_of_mem_takeWhile,
    fun c listed => blank_of_mem_takeWhile (List.mem_reverse.mp listed), fun c first => ?_,
    fun c last => ?_⟩
  · rw [List.append_assoc, rest, List.takeWhile_append_dropWhile]
  · have start : (cs.dropWhile isBlank).head? = some c := by
      rw [← rest, List.head?_append, first]
      rfl
    exact head?_dropWhile_isBlank start
  · rw [trimChars, List.getLast?_reverse] at last
    exact head?_dropWhile_isBlank last

theorem trim_eq_iff {text word : String} : trim text = word ↔ Holds text word := by
  constructor
  · rintro rfl
    have trimmed := exists_trimChars text.toList
    rwa [← String.toList_ofList (l := trimChars text.toList)] at trimmed
  · rintro ⟨lead, tail, whole, before, after, bare⟩
    rw [trim, whole, trimChars_of_bare before after bare, String.ofList_toList]

/-! ### Switches -/

/-- The words that turn a switch on, and those that turn it off. -/
def switchWords : Bool → List String
  | true => ["1", "true", "yes", "on"]
  | false => ["0", "false", "no", "off"]

/-- A text spells a word, each letter either as it is or as the ASCII capital. -/
def InAnyCase (text word : String) : Prop :=
  List.Forall₂ (fun c letter => c = letter ∨ c = letter.toUpper) text.toList word.toList

def Switches (text : String) (on : Bool) : Prop := ∃ word ∈ switchWords on, InAnyCase text word

theorem toNat_toLower (c : Char) :
    c.toLower.toNat = if 65 ≤ c.toNat ∧ c.toNat ≤ 90 then c.toNat + 32 else c.toNat := by
  have capital : c.val ≥ 'A'.val ∧ c.val ≤ 'Z'.val ↔ 65 ≤ c.toNat ∧ c.toNat ≤ 90 := by
    simp only [ge_iff_le, UInt32.le_iff_toNat_le, Char.toNat_val]
    rfl
  unfold Char.toLower
  split
  · rename_i upper
    have small := capital.mp upper
    rw [if_pos small]
    show (c.val + ('a'.val - 'A'.val)).toNat = _
    rw [UInt32.toNat_add, Char.toNat_val, show ('a'.val - 'A'.val).toNat = 32 from rfl]
    omega
  · rename_i other
    rw [if_neg (mt capital.mpr other)]

theorem toNat_toUpper (c : Char) :
    c.toUpper.toNat = if 97 ≤ c.toNat ∧ c.toNat ≤ 122 then c.toNat - 32 else c.toNat := by
  have small : 'a'.val ≤ c.val ∧ c.val ≤ 'z'.val ↔ 97 ≤ c.toNat ∧ c.toNat ≤ 122 := by
    simp only [UInt32.le_iff_toNat_le, Char.toNat_val]
    rfl
  unfold Char.toUpper
  split
  · rename_i lower
    have ranged := small.mp lower
    rw [if_pos ranged]
    show (c.val + ('A'.val - 'a'.val)).toNat = _
    -- In the word of a character the difference is added as its complement.
    rw [UInt32.toNat_add, Char.toNat_val, show ('A'.val - 'a'.val).toNat = 2 ^ 32 - 32 from rfl]
    omega
  · rename_i other
    rw [if_neg (mt small.mpr other)]

def Small (c : Char) : Prop := 97 ≤ c.toNat ∧ c.toNat ≤ 122 ∨ 48 ≤ c.toNat ∧ c.toNat ≤ 57

instance (c : Char) : Decidable (Small c) := inferInstanceAs (Decidable (_ ∨ _))

theorem toLower_eq_iff {c letter : Char} (small : Small letter) :
    c.toLower = letter ↔ c = letter ∨ c = letter.toUpper := by
  unfold Small at small
  rw [← Char.toNat_inj, ← Char.toNat_inj, ← Char.toNat_inj, toNat_toLower, toNat_toUpper]
  split <;> split <;> omega

theorem map_toLower_eq_iff {cs word : List Char} (small : ∀ letter ∈ word, Small letter) :
    cs.map Char.toLower = word ↔
      List.Forall₂ (fun c letter => c = letter ∨ c = letter.toUpper) cs word := by
  induction word generalizing cs with
  | nil => rw [List.map_eq_nil_iff, List.forall₂_nil_right_iff]
  | cons letter rest ih =>
    cases cs with
    | nil => exact iff_of_false nofun nofun
    | cons c cs =>
      rw [List.map_cons, List.cons.injEq, List.forall₂_cons,
        toLower_eq_iff (small letter List.mem_cons_self),
        ih fun other listed => small other (List.mem_cons_of_mem _ listed)]

theorem inAnyCase_iff {text word : String} (small : ∀ letter ∈ word.toList, Small letter) :
    InAnyCase text word ↔ text.map Char.toLower = word := by
  rw [InAnyCase, ← map_toLower_eq_iff small, ← String.toList_map, String.toList_inj]

theorem switches_iff {text : String} {on : Bool} :
    Switches text on ↔ text.map Char.toLower ∈ switchWords on := by
  have small (on : Bool) (word : String) (listed : word ∈ switchWords on) :
      ∀ letter ∈ word.toList, Small letter := by
    -- A test of the letters, since to decide what holds of each character goes through them all.
    have all : (switchWords on).all (fun word => word.toList.all (Small ·)) = true := by
      cases on <;> decide
    simpa using List.all_eq_true.mp all word listed
  constructor
  · rintro ⟨word, listed, spelled⟩
    rwa [(inAnyCase_iff (small on word listed)).mp spelled]
  · intro listed
    exact ⟨_, listed, (inAnyCase_iff (small on _ listed)).mpr rfl⟩

theorem switch?_eq_some_iff {text : String} {on : Bool} :
    Settings.switch? text = some on ↔ Switches text on := by
  have apart : ∀ word ∈ switchWords true, word ∉ switchWords false := by decide
  have read : Settings.switch? text =
      if text.map Char.toLower ∈ switchWords true then some true
      else if text.map Char.toLower ∈ switchWords false then some false else none := by
    simp only [← List.contains_iff_mem]
    rfl
  rw [read, switches_iff]
  split
  · rename_i positive
    cases on with
    | true => exact iff_of_true rfl positive
    | false => exact iff_of_false nofun (apart _ positive)
  · rename_i other
    split
    · rename_i negative
      cases on with
      | true => exact iff_of_false nofun other
      | false => exact iff_of_true rfl negative
    · rename_i neither
      cases on with
      | true => exact iff_of_false nofun other
      | false => exact iff_of_false nofun neither

/-! ### Counts -/

/-- Decimal digits, the highest one first, behind a plus sign or none, write a count below a bound. -/
def Counts (bound : Nat) (text : String) (count : Nat) : Prop :=
  ∃ sign digits, (sign = [] ∨ sign = ['+']) ∧ digits ≠ [] ∧ (∀ digit ∈ digits, digit < 10) ∧
    text.toList = sign ++ digits.map Nat.digitChar ∧ count = Nat.ofDigits 10 digits.reverse ∧
    count < bound

theorem digit?_digitChar {digit : Nat} (small : digit < 10) : digit? digit.digitChar = some digit := by
  have every : ∀ digit < 10, digit? (Nat.digitChar digit) = some digit := by decide
  exact every digit small

theorem digit?_eq_some_iff {c : Char} {digit : Nat} :
    digit? c = some digit ↔ digit < 10 ∧ c = digit.digitChar := by
  constructor
  · intro read
    unfold digit? at read
    split at read
    · rename_i ranged
      have low : 48 ≤ c.toNat := ranged.1
      have high : c.toNat ≤ 57 := ranged.2
      have value : c.toNat - 48 = digit := Option.some.inj read
      have small : digit < 10 := by omega
      refine ⟨small, Char.toNat_inj.mp ?_⟩
      rw [Nat.toNat_digitChar_of_lt_ten small]
      omega
    · cases read
  · rintro ⟨small, rfl⟩
    exact digit?_digitChar small

theorem mapM_digit?_eq_some_iff {cs : List Char} {digits : List Nat} :
    cs.mapM digit? = some digits ↔ (∀ digit ∈ digits, digit < 10) ∧ cs = digits.map Nat.digitChar := by
  induction cs generalizing digits with
  | nil =>
    rw [List.mapM_nil]
    constructor
    · rintro ⟨⟩
      exact ⟨nofun, rfl⟩
    · rintro ⟨_, none⟩
      rw [List.map_eq_nil_iff.mp none.symm]
      rfl
  | cons c cs ih =>
    rw [List.mapM_cons]
    constructor
    · intro read
      obtain ⟨first, readFirst, read⟩ := Option.bind_eq_some_iff.mp read
      obtain ⟨others, readOthers, same⟩ := Option.bind_eq_some_iff.mp read
      cases same
      obtain ⟨small, rfl⟩ := digit?_eq_some_iff.mp readFirst
      obtain ⟨smaller, rfl⟩ := ih.mp readOthers
      exact ⟨List.forall_mem_cons.mpr ⟨small, smaller⟩, rfl⟩
    · rintro ⟨small, written⟩
      cases digits with
      | nil => cases written
      | cons first others =>
        obtain ⟨rfl, further⟩ := List.cons.inj written
        obtain ⟨smallFirst, smallOthers⟩ := List.forall_mem_cons.mp small
        rw [digit?_digitChar smallFirst, ih.mpr ⟨smallOthers, further⟩]
        rfl

theorem appendDigits_eq_ofDigits (digits : List Nat) :
    appendDigits 10 0 digits = Nat.ofDigits 10 digits.reverse := by
  induction digits using List.reverseRecOn with
  | nil => rfl
  | append_singleton digits digit ih =>
    rw [appendDigits] at ih
    rw [appendDigits, List.foldl_append, ih, List.reverse_append, List.reverse_singleton,
      List.singleton_append, Nat.ofDigits_cons, List.foldl_cons, List.foldl_nil]
    omega

theorem digits?_eq_some_iff {cs : List Char} {count : Nat} :
    digits? cs = some count ↔ ∃ digits, digits ≠ [] ∧ (∀ digit ∈ digits, digit < 10) ∧
      cs = digits.map Nat.digitChar ∧ count = Nat.ofDigits 10 digits.reverse := by
  unfold digits?
  constructor
  · intro read
    split at read
    · cases read
    · rename_i some
      obtain ⟨digits, mapped, rfl⟩ := Option.map_eq_some_iff.mp read
      obtain ⟨small, rfl⟩ := mapM_digit?_eq_some_iff.mp mapped
      refine ⟨digits, ?_, small, rfl, appendDigits_eq_ofDigits digits⟩
      rintro rfl
      exact some rfl
  · rintro ⟨digits, some, small, rfl, rfl⟩
    have written : ¬ (digits.map Nat.digitChar).isEmpty = true := by simpa using some
    rw [if_neg written, mapM_digit?_eq_some_iff.mpr ⟨small, rfl⟩, Option.map_some,
      appendDigits_eq_ofDigits]

theorem head?_digitChars {digits : List Nat} (small : ∀ digit ∈ digits, digit < 10) :
    (digits.map Nat.digitChar).head? ≠ some '+' := by
  have every : ∀ digit < 10, Nat.digitChar digit ≠ '+' := by decide
  cases digits with
  | nil => exact nofun
  | cons digit rest => exact fun first => every digit (small digit List.mem_cons_self) (Option.some.inj first)

theorem count?_eq_some_iff {bound count : Nat} {text : String} :
    count? bound text = some count ↔ Counts bound text count := by
  unfold count? Counts
  dsimp only
  rw [Option.filter_eq_some_iff, digits?_eq_some_iff, decide_eq_true_iff]
  constructor
  · rintro ⟨⟨digits, some, small, written, value⟩, fits⟩
    split at written
    · rename_i plus
      obtain ⟨rest, whole⟩ := List.head?_eq_some_iff.mp plus
      rw [whole, List.tail_cons] at written
      exact ⟨['+'], digits, .inr rfl, some, small, by rw [whole, written]; rfl, value, fits⟩
    · exact ⟨[], digits, .inl rfl, some, small, written, value, fits⟩
  · rintro ⟨sign, digits, signed, some, small, written, value, fits⟩
    refine ⟨⟨digits, some, small, ?_, value⟩, fits⟩
    rw [written]
    rcases signed with rfl | rfl
    · exact if_neg (head?_digitChars small)
    · rfl

end Text

end TurtleFleet
