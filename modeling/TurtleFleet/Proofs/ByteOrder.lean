import TurtleFleet.Keyed

/-! The order of names. Names are compared by their code points. Of two different code points the lower
one has the lower encoding, whatever comes behind, so this is the order of the encoded names byte by
byte as well. -/

namespace TurtleFleet

namespace Text

def bytes (text : String) : List UInt8 := text.toUTF8.data.toList

theorem bytes_eq (text : String) : bytes text = text.toList.flatMap String.utf8EncodeChar := by
  rw [bytes, String.toUTF8_eq_toByteArray, ← String.utf8Encode_toList, List.utf8Encode,
    List.data_toByteArray]

/-! ### One character -/

/-- The ways in which a code point is encoded. -/
inductive Encodes (point : Nat) : List UInt8 → Prop where
  | one (low : point ≤ 0x7f) : Encodes point [.ofNat point]
  | two (high : 0x7f < point) (low : point ≤ 0x7ff) :
      Encodes point [.ofNat (0xc0 + point / 64), .ofNat (0x80 + point % 64)]
  | three (high : 0x7ff < point) (low : point ≤ 0xffff) :
      Encodes point [.ofNat (0xe0 + point / 4096), .ofNat (0x80 + point / 64 % 64),
        .ofNat (0x80 + point % 64)]
  | four (high : 0xffff < point) (low : point < 0x110000) :
      Encodes point [.ofNat (0xf0 + point / 262144), .ofNat (0x80 + point / 4096 % 64),
        .ofNat (0x80 + point / 64 % 64), .ofNat (0x80 + point % 64)]

theorem encodes_utf8EncodeChar (character : Char) :
    Encodes character.val.toNat (String.utf8EncodeChar character) := by
  have bound : character.val.toNat < 0x110000 := by
    rcases character.valid with low | ⟨_, low⟩
    · exact Nat.lt_trans low (by decide)
    · exact low
  unfold String.utf8EncodeChar
  generalize character.val.toNat = point at bound ⊢
  dsimp only
  split
  · exact .one ‹_›
  · split
    · have lead : point / 64 % 32 + 192 = 0xc0 + point / 64 := by omega
      rw [lead, Nat.add_comm (point % 64)]
      exact .two (by omega) ‹_›
    · split
      · have lead : point / 4096 % 16 + 224 = 0xe0 + point / 4096 := by omega
        rw [lead, Nat.add_comm (point / 64 % 64), Nat.add_comm (point % 64)]
        exact .three (by omega) ‹_›
      · have lead : point / 262144 % 8 + 240 = 0xf0 + point / 262144 := by omega
        rw [lead, Nat.add_comm (point / 4096 % 64), Nat.add_comm (point / 64 % 64),
          Nat.add_comm (point % 64)]
        exact .four (by omega) bound

theorem ofNat_cons_lt {first second : Nat} {behind further : List UInt8} (small : second < 256)
    (before : first < second ∨ first = second ∧ behind < further) :
    UInt8.ofNat first :: behind < UInt8.ofNat second :: further := by
  rw [List.cons_lt_cons_iff]
  rcases before with less | ⟨rfl, less⟩
  · refine .inl (UInt8.lt_iff_toNat_lt.mpr ?_)
    rwa [UInt8.toNat_ofNat_of_lt' small, UInt8.toNat_ofNat_of_lt' (Nat.lt_trans less small)]
  · exact .inr ⟨rfl, less⟩

/-- The lower code point has the lower encoding. Encodings of different lengths differ in their first
byte, and those of one length have the digits of the code points in their order. -/
theorem Encodes.append_lt {first second : Nat} {lower upper : List UInt8}
    (encodes : Encodes first lower) (encodesToo : Encodes second upper) (less : first < second)
    (behind further : List UInt8) : lower ++ behind < upper ++ further := by
  cases encodes with
  | one low =>
    cases encodesToo with
    | one lowToo => exact ofNat_cons_lt (by omega) (.inl less)
    | two high lowToo => exact ofNat_cons_lt (by omega) (.inl (by omega))
    | three high lowToo => exact ofNat_cons_lt (by omega) (.inl (by omega))
    | four high lowToo => exact ofNat_cons_lt (by omega) (.inl (by omega))
  | two high low =>
    cases encodesToo with
    | one lowToo => omega
    | two highToo lowToo =>
      refine ofNat_cons_lt (by omega) ?_
      by_cases lead : first / 64 < second / 64
      · exact .inl (by omega)
      · exact .inr ⟨by omega, ofNat_cons_lt (by omega) (.inl (by omega))⟩
    | three highToo lowToo => exact ofNat_cons_lt (by omega) (.inl (by omega))
    | four highToo lowToo => exact ofNat_cons_lt (by omega) (.inl (by omega))
  | three high low =>
    cases encodesToo with
    | one lowToo => omega
    | two highToo lowToo => omega
    | three highToo lowToo =>
      refine ofNat_cons_lt (by omega) ?_
      by_cases lead : first / 4096 < second / 4096
      · exact .inl (by omega)
      · refine .inr ⟨by omega, ofNat_cons_lt (by omega) ?_⟩
        by_cases next : first / 64 % 64 < second / 64 % 64
        · exact .inl (by omega)
        · exact .inr ⟨by omega, ofNat_cons_lt (by omega) (.inl (by omega))⟩
    | four highToo lowToo => exact ofNat_cons_lt (by omega) (.inl (by omega))
  | four high low =>
    cases encodesToo with
    | one lowToo => omega
    | two highToo lowToo => omega
    | three highToo lowToo => omega
    | four highToo lowToo =>
      refine ofNat_cons_lt (by omega) ?_
      by_cases lead : first / 262144 < second / 262144
      · exact .inl (by omega)
      · refine .inr ⟨by omega, ofNat_cons_lt (by omega) ?_⟩
        by_cases next : first / 4096 % 64 < second / 4096 % 64
        · exact .inl (by omega)
        · refine .inr ⟨by omega, ofNat_cons_lt (by omega) ?_⟩
          by_cases third : first / 64 % 64 < second / 64 % 64
          · exact .inl (by omega)
          · exact .inr ⟨by omega, ofNat_cons_lt (by omega) (.inl (by omega))⟩

/-! ### Texts -/

theorem append_lt_append (front : List UInt8) {behind further : List UInt8} (less : behind < further) :
    front ++ behind < front ++ further := by
  induction front with
  | nil => exact less
  | cons byte front ih => exact List.cons_lt_cons_iff.mpr (.inr ⟨rfl, ih⟩)

theorem flatMap_lt_flatMap {first second : List Char} (less : first < second) :
    first.flatMap String.utf8EncodeChar < second.flatMap String.utf8EncodeChar := by
  induction first generalizing second with
  | nil =>
    cases second with
    | nil => exact (List.lt_irrefl _ less).elim
    | cons character further =>
      rw [List.flatMap_cons, List.flatMap_nil]
      cases encoded : String.utf8EncodeChar character with
      | nil => exact (String.utf8EncodeChar_ne_nil encoded).elim
      | cons byte bytes => exact List.nil_lt_cons ..
  | cons character behind ih =>
    cases second with
    | nil => exact (List.not_lt_nil _ less).elim
    | cons other further =>
      rw [List.flatMap_cons, List.flatMap_cons]
      rcases List.cons_lt_cons_iff.mp less with lower | ⟨rfl, later⟩
      · exact (encodes_utf8EncodeChar character).append_lt (encodes_utf8EncodeChar other) lower _ _
      · exact append_lt_append _ (ih later)

theorem bytes_lt_bytes {first second : String} (less : first < second) :
    bytes first < bytes second := by
  rw [bytes_eq, bytes_eq]
  exact flatMap_lt_flatMap less

/-- Texts are in the order of their bytes. -/
theorem bytes_lt_bytes_iff {first second : String} : bytes first < bytes second ↔ first < second := by
  refine ⟨fun less => ?_, bytes_lt_bytes⟩
  by_cases lower : first < second
  · exact lower
  by_cases upper : second < first
  · exact (List.lt_irrefl _ (List.lt_trans less (bytes_lt_bytes upper))).elim
  · have same : first = second := Std.le_antisymm (Std.not_lt.mp upper) (Std.not_lt.mp lower)
    rw [same] at less
    exact (List.lt_irrefl _ less).elim

end Text

end TurtleFleet
