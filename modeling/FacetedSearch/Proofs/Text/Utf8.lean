import FacetedSearch.Text.Utf8

/-!
Reading the bytes of a text back.

The bytes of a character are read as that character, whatever comes after them, and a part of them
at the front is read as none.  So a text that is cut anywhere splits into the characters that are
complete and a part of the next one, which has three bytes at most.
-/

namespace FacetedSearch.Utf8

/-- The forms in which bytes spell a character, by the number of bytes. -/
inductive Spells : List UInt8 → Char → Prop where
  | one {b0 : UInt8} (ascii : b0 < 0x80) : Spells [b0] (Char.ofNat b0.toNat)
  | two {b0 b1 : UInt8} (first : 0xC2 ≤ b0 ∧ b0 ≤ 0xDF) (second : isContinuation b1 = true) :
      Spells [b0, b1] (Char.ofNat (b0.toNat % 0x20 * 0x40 + payload b1))
  | three {b0 b1 b2 : UInt8} (first : 0xE0 ≤ b0 ∧ b0 ≤ 0xEF) (second : secondOfThree b0 b1 = true)
      (third : isContinuation b2 = true) :
      Spells [b0, b1, b2]
        (Char.ofNat (b0.toNat % 0x10 * 0x1000 + payload b1 * 0x40 + payload b2))
  | four {b0 b1 b2 b3 : UInt8} (first : 0xF0 ≤ b0 ∧ b0 ≤ 0xF4) (second : secondOfFour b0 b1 = true)
      (third : isContinuation b2 = true) (fourth : isContinuation b3 = true) :
      Spells [b0, b1, b2, b3]
        (Char.ofNat (b0.toNat % 0x08 * 0x40000 + payload b1 * 0x1000 + payload b2 * 0x40 +
          payload b3))

@[simp]
theorem isContinuation_ofNat (number : Nat) :
    isContinuation (UInt8.ofNat (number % 0x40 + 0x80)) = true := by
  simp [isContinuation, UInt8.le_iff_toNat_le]
  omega

@[simp]
theorem payload_ofNat (number : Nat) :
    payload (UInt8.ofNat (number % 0x40 + 0x80)) = number % 0x40 := by
  simp [payload]
  omega

theorem secondOfThree_ofNat {number : Nat} (long : 0x7FF < number) (short : number ≤ 0xFFFF)
    (valid : number < 0xD800 ∨ 0xDFFF < number) :
    secondOfThree (UInt8.ofNat (number / 0x1000 % 0x10 + 0xE0))
      (UInt8.ofNat (number / 0x40 % 0x40 + 0x80)) = true := by
  simp only [secondOfThree, isContinuation, UInt8.le_iff_toNat_le, ← UInt8.toNat_inj,
    UInt8.toNat_ofNat', UInt8.reduceToNat]
  split
  next => simp; omega
  next => split <;> simp <;> omega

theorem secondOfFour_ofNat {number : Nat} (long : 0xFFFF < number) (short : number < 0x110000) :
    secondOfFour (UInt8.ofNat (number / 0x40000 % 0x08 + 0xF0))
      (UInt8.ofNat (number / 0x1000 % 0x40 + 0x80)) = true := by
  simp only [secondOfFour, isContinuation, UInt8.le_iff_toNat_le, ← UInt8.toNat_inj,
    UInt8.toNat_ofNat', UInt8.reduceToNat]
  split
  next => simp; omega
  next => split <;> simp <;> omega

theorem spells_one {number : Nat} (short : number ≤ 0x7F) :
    Spells [UInt8.ofNat number] (Char.ofNat number) := by
  have value : (UInt8.ofNat number).toNat = number := by
    rw [UInt8.toNat_ofNat']
    omega
  have ascii : UInt8.ofNat number < 0x80 := by
    rw [UInt8.lt_iff_toNat_lt, value]
    exact Nat.lt_succ_of_le short
  have spelled := Spells.one ascii
  rwa [value] at spelled

theorem spells_two {number : Nat} (long : 0x7F < number) (short : number ≤ 0x7FF) :
    Spells [UInt8.ofNat (number / 0x40 % 0x20 + 0xC0), UInt8.ofNat (number % 0x40 + 0x80)]
      (Char.ofNat number) := by
  have first : 0xC2 ≤ UInt8.ofNat (number / 0x40 % 0x20 + 0xC0) ∧
      UInt8.ofNat (number / 0x40 % 0x20 + 0xC0) ≤ 0xDF := by
    simp [UInt8.le_iff_toNat_le]
    omega
  have value : (UInt8.ofNat (number / 0x40 % 0x20 + 0xC0)).toNat % 0x20 * 0x40 + number % 0x40 =
      number := by
    rw [UInt8.toNat_ofNat']
    omega
  have spelled := Spells.two first (isContinuation_ofNat number)
  rwa [payload_ofNat, value] at spelled

theorem spells_three {number : Nat} (long : 0x7FF < number) (short : number ≤ 0xFFFF)
    (valid : number < 0xD800 ∨ 0xDFFF < number) :
    Spells [UInt8.ofNat (number / 0x1000 % 0x10 + 0xE0), UInt8.ofNat (number / 0x40 % 0x40 + 0x80),
      UInt8.ofNat (number % 0x40 + 0x80)] (Char.ofNat number) := by
  have first : 0xE0 ≤ UInt8.ofNat (number / 0x1000 % 0x10 + 0xE0) ∧
      UInt8.ofNat (number / 0x1000 % 0x10 + 0xE0) ≤ 0xEF := by
    simp [UInt8.le_iff_toNat_le]
    omega
  have value : (UInt8.ofNat (number / 0x1000 % 0x10 + 0xE0)).toNat % 0x10 * 0x1000 +
      number / 0x40 % 0x40 * 0x40 + number % 0x40 = number := by
    rw [UInt8.toNat_ofNat']
    omega
  have spelled :=
    Spells.three first (secondOfThree_ofNat long short valid) (isContinuation_ofNat number)
  rwa [payload_ofNat, payload_ofNat, value] at spelled

theorem spells_four {number : Nat} (long : 0xFFFF < number) (short : number < 0x110000) :
    Spells [UInt8.ofNat (number / 0x40000 % 0x08 + 0xF0),
      UInt8.ofNat (number / 0x1000 % 0x40 + 0x80), UInt8.ofNat (number / 0x40 % 0x40 + 0x80),
      UInt8.ofNat (number % 0x40 + 0x80)] (Char.ofNat number) := by
  have first : 0xF0 ≤ UInt8.ofNat (number / 0x40000 % 0x08 + 0xF0) ∧
      UInt8.ofNat (number / 0x40000 % 0x08 + 0xF0) ≤ 0xF4 := by
    simp [UInt8.le_iff_toNat_le]
    omega
  have value : (UInt8.ofNat (number / 0x40000 % 0x08 + 0xF0)).toNat % 0x08 * 0x40000 +
      number / 0x1000 % 0x40 * 0x1000 + number / 0x40 % 0x40 * 0x40 + number % 0x40 = number := by
    rw [UInt8.toNat_ofNat']
    omega
  have spelled := Spells.four first (secondOfFour_ofNat long short)
    (isContinuation_ofNat (number / 0x40)) (isContinuation_ofNat number)
  rwa [payload_ofNat, payload_ofNat, payload_ofNat, value] at spelled

/-- The bytes of a character spell it. -/
theorem spells_encodeChar (c : Char) : Spells (encodeChar c) c := by
  unfold encodeChar String.utf8EncodeChar
  generalize number : c.val.toNat = v
  have valid : v < 0xD800 ∨ 0xDFFF < v ∧ v < 0x110000 := number ▸ c.valid
  obtain rfl : Char.ofNat v = c := number ▸ Char.ofNat_toNat c
  by_cases one : v ≤ 0x7F
  · rw [if_pos one]
    exact spells_one one
  by_cases two : v ≤ 0x7FF
  · rw [if_neg one, if_pos two]
    exact spells_two (Nat.lt_of_not_le one) two
  by_cases three : v ≤ 0xFFFF
  · rw [if_neg one, if_neg two, if_pos three]
    exact spells_three (Nat.lt_of_not_le two) three (valid.imp_right And.left)
  · rw [if_neg one, if_neg two, if_neg three]
    exact spells_four (Nat.lt_of_not_le three) (by omega)

theorem Spells.ne_nil {bytes : List UInt8} {c : Char} (spelled : Spells bytes c) : bytes ≠ [] := by
  cases spelled <;> exact List.cons_ne_nil _ _

theorem Spells.length_le {bytes : List UInt8} {c : Char} (spelled : Spells bytes c) :
    bytes.length ≤ 4 := by
  cases spelled <;> simp

theorem char?_two {b0 : UInt8} (first : 0xC2 ≤ b0 ∧ b0 ≤ 0xDF) (rest : List UInt8) :
    char? (b0 :: rest) = charOfTwo? b0 rest := by
  have noAscii : ¬b0 < 0x80 := UInt8.not_lt.mpr (UInt8.le_trans (by decide) first.1)
  rw [char?, if_neg noAscii, if_pos first]

theorem char?_three {b0 : UInt8} (first : 0xE0 ≤ b0 ∧ b0 ≤ 0xEF) (rest : List UInt8) :
    char? (b0 :: rest) = charOfThree? b0 rest := by
  have noAscii : ¬b0 < 0x80 := UInt8.not_lt.mpr (UInt8.le_trans (by decide) first.1)
  have notTwo : ¬(0xC2 ≤ b0 ∧ b0 ≤ 0xDF) := fun two =>
    absurd (UInt8.le_trans first.1 two.2) (by decide)
  rw [char?, if_neg noAscii, if_neg notTwo, if_pos first]

theorem char?_four {b0 : UInt8} (first : 0xF0 ≤ b0 ∧ b0 ≤ 0xF4) (rest : List UInt8) :
    char? (b0 :: rest) = charOfFour? b0 rest := by
  have noAscii : ¬b0 < 0x80 := UInt8.not_lt.mpr (UInt8.le_trans (by decide) first.1)
  have notTwo : ¬(0xC2 ≤ b0 ∧ b0 ≤ 0xDF) := fun two =>
    absurd (UInt8.le_trans first.1 two.2) (by decide)
  have notThree : ¬(0xE0 ≤ b0 ∧ b0 ≤ 0xEF) := fun three =>
    absurd (UInt8.le_trans first.1 three.2) (by decide)
  rw [char?, if_neg noAscii, if_neg notTwo, if_neg notThree, if_pos first]

/-- Bytes that spell a character are read as that character. -/
theorem Spells.char?_append {bytes : List UInt8} {c : Char} (spelled : Spells bytes c)
    (rest : List UInt8) : char? (bytes ++ rest) = some (c, rest) := by
  cases spelled with
  | one ascii => exact if_pos ascii
  | two first second =>
      rw [List.cons_append, char?_two first]
      exact if_pos second
  | three first second third =>
      rw [List.cons_append, char?_three first]
      exact if_pos (by rw [second, third]; rfl)
  | four first second third fourth =>
      rw [List.cons_append, char?_four first]
      exact if_pos (by rw [second, third, fourth]; rfl)

/-- A part at the front of bytes that spell a character is read as no character. -/
theorem Spells.char?_eq_none {front back : List UInt8} {c : Char}
    (spelled : Spells (front ++ back) c) (incomplete : back ≠ []) : char? front = none := by
  generalize whole : front ++ back = bytes at spelled
  have shorter : front.length < bytes.length := by
    rw [← whole, List.length_append]
    exact Nat.lt_add_of_pos_right (List.length_pos_iff.mpr incomplete)
  rcases front with _ | ⟨b, part⟩
  · rfl
  cases spelled with
  | one ascii => exact absurd shorter (by simp)
  | two first second =>
      obtain ⟨rfl, -⟩ := List.cons.inj whole
      rw [char?_two first]
      rcases part with _ | ⟨b1, part⟩
      · rfl
      · exact absurd shorter (by simp)
  | three first second third =>
      obtain ⟨rfl, -⟩ := List.cons.inj whole
      rw [char?_three first]
      rcases part with _ | ⟨b1, _ | ⟨b2, part⟩⟩
      · rfl
      · rfl
      · exact absurd shorter (by simp)
  | four first second third fourth =>
      obtain ⟨rfl, -⟩ := List.cons.inj whole
      rw [char?_four first]
      rcases part with _ | ⟨b1, _ | ⟨b2, _ | ⟨b3, part⟩⟩⟩
      · rfl
      · rfl
      · rfl
      · exact absurd shorter (by simp)

@[simp]
theorem char?_encodeChar_append (c : Char) (rest : List UInt8) :
    char? (encodeChar c ++ rest) = some (c, rest) :=
  (spells_encodeChar c).char?_append rest

@[simp]
theorem encode_nil : encode [] = [] :=
  rfl

@[simp]
theorem encode_cons (c : Char) (text : List Char) :
    encode (c :: text) = encodeChar c ++ encode text :=
  rfl

/-- A text in ASCII has one byte for each character. -/
theorem encode_of_ascii {text : List Char} (ascii : ∀ c ∈ text, c.toNat < 0x80) :
    encode text = text.map fun c => UInt8.ofNat c.toNat := by
  induction text with
  | nil => rfl
  | cons c text inductionHypothesis =>
      obtain ⟨first, later⟩ := List.forall_mem_cons.mp ascii
      have single : encodeChar c = [UInt8.ofNat c.toNat] := if_pos (Nat.le_of_lt_succ first)
      rw [encode_cons, single, inductionHypothesis later]
      rfl

theorem length_le_length_encode (text : List Char) : text.length ≤ (encode text).length := by
  induction text with
  | nil => exact Nat.zero_le 0
  | cons c text inductionHypothesis =>
      have positive := List.length_pos_iff.mpr (spells_encodeChar c).ne_nil
      rw [encode_cons, List.length_append, List.length_cons]
      omega

/-- Only the empty text has bytes that start with no character. -/
theorem eq_nil_of_char?_encode {text : List Char} (unread : char? (encode text) = none) :
    text = [] := by
  cases text with
  | nil => rfl
  | cons c text =>
      rw [encode_cons, char?_encodeChar_append] at unread
      cases unread

theorem splitWith_encode_append {text : List Char} {tail : List UInt8} {count : Nat}
    (enough : text.length ≤ count) (unread : char? tail = none) :
    splitWith count (encode text ++ tail) = (text, tail) := by
  induction text generalizing count with
  | nil =>
      cases count with
      | zero => rfl
      | succ count =>
          rw [encode_nil, List.nil_append, splitWith, unread]
  | cons c text inductionHypothesis =>
      obtain ⟨count, rfl⟩ := Nat.exists_eq_succ_of_ne_zero (Nat.ne_zero_of_lt enough)
      have continued := inductionHypothesis (Nat.le_of_succ_le_succ enough)
      rw [encode_cons, List.append_assoc, splitWith, char?_encodeChar_append]
      simp only [continued]

/-- A text splits off from bytes that start with no character. -/
theorem split_encode_append (text : List Char) {tail : List UInt8} (unread : char? tail = none) :
    split (encode text ++ tail) = (text, tail) := by
  apply splitWith_encode_append _ unread
  rw [List.length_append]
  exact Nat.le_add_right_of_le (length_le_length_encode text)

@[simp]
theorem decode?_encode (text : List Char) : decode? (encode text) = some text := by
  have complete : split (encode text) = (text, []) := by
    have atEnd : char? [] = none := rfl
    rw [← split_encode_append text atEnd, List.append_nil]
  rw [decode?, complete]

/-- A text in bytes that are cut anywhere: the characters that are complete before the cut, the part
of a character behind them, and the characters from there on. -/
structure Cut (front back : List UInt8) (complete remaining : List Char) (part : List UInt8) :
    Prop where
  front_eq : front = encode complete ++ part
  back_eq : part ++ back = encode remaining
  short : part.length ≤ 3
  unread : char? part = none

theorem Cut.cons {front back : List UInt8} {complete remaining : List Char} {part : List UInt8}
    (cut : Cut front back complete remaining part) (c : Char) :
    Cut (encodeChar c ++ front) back (c :: complete) remaining part where
  front_eq := by rw [cut.front_eq, encode_cons, List.append_assoc]
  back_eq := cut.back_eq
  short := cut.short
  unread := cut.unread

theorem exists_cut {text : List Char} {front back : List UInt8}
    (whole : front ++ back = encode text) :
    ∃ complete remaining part, text = complete ++ remaining ∧
      Cut front back complete remaining part := by
  induction text generalizing front with
  | nil =>
      obtain ⟨rfl, rfl⟩ := List.append_eq_nil_iff.mp whole
      exact ⟨[], [], [], rfl, rfl, rfl, Nat.zero_le 3, rfl⟩
  | cons c text inductionHypothesis =>
      rw [encode_cons] at whole
      by_cases within : front.length < (encodeChar c).length
      · -- The cut lies within the first character.
        obtain ⟨missing, spelled⟩ : front <+: encodeChar c :=
          List.prefix_of_prefix_length_le ⟨back, whole⟩ (List.prefix_append _ _)
            (Nat.le_of_lt within)
        have short := (spells_encodeChar c).length_le
        have incomplete : missing ≠ [] := by
          rintro rfl
          rw [← spelled, List.append_nil] at within
          exact Nat.lt_irrefl _ within
        refine ⟨[], c :: text, front, rfl, rfl, whole, by omega, ?_⟩
        exact Spells.char?_eq_none (spelled ▸ spells_encodeChar c) incomplete
      · obtain ⟨rest, rfl⟩ : encodeChar c <+: front :=
          List.prefix_of_prefix_length_le (List.prefix_append _ _) ⟨back, whole⟩
            (Nat.le_of_not_lt within)
        rw [List.append_assoc, List.append_right_inj] at whole
        obtain ⟨complete, remaining, part, rfl, cut⟩ := inductionHypothesis whole
        exact ⟨c :: complete, remaining, part, rfl, cut.cons c⟩

end FacetedSearch.Utf8
