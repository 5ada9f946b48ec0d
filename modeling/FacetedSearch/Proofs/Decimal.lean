import FacetedSearch.Decimal
import Mathlib.Algebra.Group.Nat.Defs
import Mathlib.Data.List.Induction

/-!
# Digits that are read and written back

Digits are read from the start of a text up to a limit or to the first character that is no digit.
A number in as many digits as it was read from has the same digits again, leading zeros included.
-/

namespace FacetedSearch.Decimal

theorem digitChar_of_ofDigitChar? {c : Char} {d : Digit} (read : ofDigitChar? c = some d) :
    digitChar d = c := by
  unfold ofDigitChar? at read
  split at read
  next bounds =>
    obtain rfl := Option.some.inj read
    have lower : '0'.toNat ≤ c.toNat := bounds.1
    unfold digitChar
    dsimp only
    rw [Nat.add_sub_cancel' lower, Char.ofNat_toNat]
  next => cases read

theorem digitChar_ne {c : Char} (other : ofDigitChar? c = none) (d : Digit) : digitChar d ≠ c := by
  rintro rfl
  cases (ofDigitChar?_digitChar d).symm.trans other

/-! ## Reading -/

/-- A text that does not go on with a digit. -/
def Stops (text : List Char) : Prop :=
  ∀ c ∈ text.head?, ofDigitChar? c = none

@[simp]
theorem stops_nil : Stops [] :=
  nofun

/-- Digits are taken whole, whether the limit or the text after them ends them. -/
theorem takeDigits_append {limit : Nat} {ds : List Digit} {rest : List Char}
    (short : ds.length ≤ limit) (stops : ds.length < limit → Stops rest) :
    takeDigits limit (chars ds ++ rest) = (ds, rest) := by
  induction ds generalizing limit with
  | nil =>
      cases limit with
      | zero => rfl
      | succ limit =>
          cases rest with
          | nil => rfl
          | cons c rest =>
              have noDigit : ofDigitChar? c = none := stops (Nat.succ_pos limit) c rfl
              simp only [chars, List.map_nil, List.nil_append, takeDigits, noDigit]
  | cons d ds inductionHypothesis =>
      cases limit with
      | zero => exact absurd short (Nat.not_succ_le_zero _)
      | succ limit =>
          have later := inductionHypothesis (Nat.le_of_succ_le_succ short)
            fun shorter => stops (Nat.succ_lt_succ shorter)
          simp only [chars] at later ⊢
          simp only [List.map_cons, List.cons_append, takeDigits, ofDigitChar?_digitChar, later]

theorem takeDigits_spec (limit : Nat) (text : List Char) :
    (takeDigits limit text).1.length ≤ limit ∧
      chars (takeDigits limit text).1 ++ (takeDigits limit text).2 = text := by
  fun_induction takeDigits limit text with
  | case1 text => exact ⟨Nat.le_refl 0, rfl⟩
  | case2 limit => exact ⟨Nat.zero_le _, rfl⟩
  | case3 limit c rest d read inductionHypothesis =>
      obtain ⟨short, same⟩ := inductionHypothesis
      refine ⟨Nat.succ_le_succ short, ?_⟩
      rw [chars, List.map_cons, List.cons_append, digitChar_of_ofDigitChar? read]
      exact congrArg (c :: ·) same
  | case4 limit c rest read => exact ⟨Nat.zero_le _, rfl⟩

theorem spanDigits_append (ds : List Digit) {rest : List Char} (stops : Stops rest) :
    spanDigits (chars ds ++ rest) = (ds, rest) := by
  induction ds with
  | nil =>
      cases rest with
      | nil => rfl
      | cons c rest =>
          have noDigit : ofDigitChar? c = none := stops c rfl
          simp only [chars, List.map_nil, List.nil_append, spanDigits, noDigit]
  | cons d ds inductionHypothesis =>
      simp only [chars] at inductionHypothesis ⊢
      simp only [List.map_cons, List.cons_append, spanDigits, ofDigitChar?_digitChar,
        inductionHypothesis]

@[simp]
theorem chars_spanDigits (text : List Char) :
    chars (spanDigits text).1 ++ (spanDigits text).2 = text := by
  fun_induction spanDigits text with
  | case1 => rfl
  | case2 c rest d read inductionHypothesis =>
      rw [chars, List.map_cons, List.cons_append, digitChar_of_ofDigitChar? read]
      exact congrArg (c :: ·) inductionHypothesis
  | case3 c rest read => rfl

/-- The text of a number is digits, and there is at least one. -/
theorem ofText?_eq_some_iff {text : List Char} {n : Nat} :
    ofText? text = some n ↔ ∃ ds, ds ≠ [] ∧ text = chars ds ∧ value ds = n := by
  constructor
  · intro read
    have whole := chars_spanDigits text
    unfold ofText? at read
    split at read
    next d ds spanned =>
      rw [spanned, List.append_nil] at whole
      exact ⟨d :: ds, List.cons_ne_nil d ds, whole.symm, Option.some.inj read⟩
    next => cases read
  · rintro ⟨ds, nonempty, rfl, rfl⟩
    have spanned := spanDigits_append ds stops_nil
    rw [List.append_nil] at spanned
    cases ds with
    | nil => exact absurd rfl nonempty
    | cons d ds => simp only [ofText?, spanned]

/-! ## Writing -/

theorem valueFrom_append (high : Nat) (ds after : List Digit) :
    valueFrom high (ds ++ after) = valueFrom (valueFrom high ds) after :=
  List.foldl_append

/-- More digits never make a number smaller. -/
theorem le_valueFrom (high : Nat) (ds : List Digit) : high ≤ valueFrom high ds := by
  induction ds generalizing high with
  | nil => exact Nat.le_refl high
  | cons d ds inductionHypothesis =>
      have grown := inductionHypothesis (high * 10 + d.val)
      change high * 10 + d.val ≤ valueFrom high (d :: ds) at grown
      omega

@[simp]
theorem value_append_singleton (ds : List Digit) (d : Digit) :
    value (ds ++ [d]) = value ds * 10 + d.val :=
  valueFrom_append 0 ds [d]

theorem value_lt (ds : List Digit) : value ds < 10 ^ ds.length := by
  induction ds using List.reverseRecOn with
  | nil => exact Nat.one_pos
  | append_singleton ds d inductionHypothesis =>
      rw [value_append_singleton, List.length_append, List.length_singleton, Nat.pow_succ]
      have digit := d.isLt
      omega

theorem digitsOnto_append (fuel n : Nat) (written : List Digit) :
    digitsOnto fuel n written = digitsOnto fuel n [] ++ written := by
  induction fuel generalizing n written with
  | zero => rfl
  | succ fuel inductionHypothesis =>
      unfold digitsOnto
      split
      · rfl
      · rw [inductionHypothesis _ (lastDigit n :: written), inductionHypothesis _ [lastDigit n],
          List.append_assoc]
        rfl

/-- More fuel than the number needs changes nothing. -/
theorem digitsOnto_eq_digits {fuel n : Nat} (enough : n < fuel) :
    digitsOnto fuel n [] = digits n := by
  unfold digits
  induction n using Nat.strongRecOn generalizing fuel with
  | ind n inductionHypothesis =>
      obtain ⟨fuel, rfl⟩ : ∃ smaller, fuel = smaller + 1 := ⟨fuel - 1, by omega⟩
      unfold digitsOnto
      split
      next => rfl
      next large =>
          have smaller : n / 10 < n := by omega
          rw [digitsOnto_append fuel, digitsOnto_append n,
            inductionHypothesis (n / 10) smaller (by omega : n / 10 < fuel),
            inductionHypothesis (n / 10) smaller smaller]

theorem digits_of_lt {n : Nat} (small : n < 10) : digits n = [lastDigit n] := by
  unfold digits digitsOnto
  rw [if_pos small]

theorem digits_of_le {n : Nat} (large : 10 ≤ n) :
    digits n = digits (n / 10) ++ [lastDigit n] := by
  have smaller : n / 10 < n := by omega
  rw [digits, digitsOnto, if_neg (by omega), digitsOnto_append, digitsOnto_eq_digits smaller]

@[simp]
theorem lastDigit_eq (high : Nat) (d : Digit) : lastDigit (high * 10 + d.val) = d := by
  apply Fin.ext
  have digit := d.isLt
  simp only [lastDigit]
  omega

@[simp]
theorem write_digit (d : Digit) : write d.val = [digitChar d] := by
  have last : lastDigit d.val = d := by simpa using lastDigit_eq 0 d
  rw [write, digits_of_lt d.isLt, last]
  rfl

theorem write_append_digit {high : Nat} (positive : 0 < high) (d : Digit) :
    write (high * 10 + d.val) = write high ++ [digitChar d] := by
  have digit := d.isLt
  have above : (high * 10 + d.val) / 10 = high := by omega
  rw [write, digits_of_le (by omega), above, lastDigit_eq, chars, List.map_append]
  rfl

/-- One place more takes one digit more, also behind a number that is nothing but padding. -/
theorem padded_append_digit {width : Nat} (wide : 0 < width) (high : Nat) (d : Digit) :
    padded (width + 1) (high * 10 + d.val) = padded width high ++ [digitChar d] := by
  unfold padded
  cases high with
  | zero =>
      have zero : write 0 = ['0'] := by decide
      rw [Nat.zero_mul, Nat.zero_add, write_digit, zero]
      dsimp only [List.length_singleton]
      rw [← List.replicate_succ', Nat.sub_add_cancel wide, Nat.add_sub_cancel]
  | succ high =>
      rw [write_append_digit (Nat.succ_pos high)]
      dsimp only
      rw [List.length_append, List.length_singleton, Nat.add_sub_add_right, List.append_assoc]

/-- A number in as many digits as it was read from has the same digits. -/
theorem padded_value {ds : List Digit} (nonempty : ds ≠ []) :
    padded ds.length (value ds) = chars ds := by
  induction ds using List.reverseRecOn with
  | nil => exact absurd rfl nonempty
  | append_singleton ds d inductionHypothesis =>
      have ending : chars (ds ++ [d]) = chars ds ++ [digitChar d] := List.map_append ..
      rw [value_append_singleton, ending, List.length_append, List.length_singleton]
      by_cases first : ds = []
      · subst first
        have single : value [] * 10 + d.val = d.val := by simp [value, valueFrom]
        rw [single, padded, write_digit]
        rfl
      · rw [padded_append_digit (List.length_pos_iff.mpr first), inductionHypothesis first]

/-! ## Reading what was written -/

@[simp]
theorem value_digits (n : Nat) : value (digits n) = n := by
  induction n using Nat.strongRecOn with
  | ind n inductionHypothesis =>
      by_cases small : n < 10
      · simp only [digits_of_lt small, value, valueFrom, List.foldl_cons, List.foldl_nil, lastDigit]
        omega
      · rw [digits_of_le (by omega), value_append_singleton,
          inductionHypothesis (n / 10) (by omega)]
        simp only [lastDigit]
        omega

@[simp]
theorem digits_ne_nil (n : Nat) : digits n ≠ [] := by
  by_cases small : n < 10
  · rw [digits_of_lt small]
    exact List.cons_ne_nil _ _
  · rw [digits_of_le (by omega)]
    exact List.append_ne_nil_of_right_ne_nil _ (List.cons_ne_nil _ _)

/-- Only the number zero is written with a zero in front. -/
theorem head?_digits_ne_zero {n : Nat} (positive : 0 < n) : (digits n).head? ≠ some 0 := by
  induction n using Nat.strongRecOn with
  | ind n inductionHypothesis =>
      by_cases small : n < 10
      · rw [digits_of_lt small, List.head?_cons, Ne, Option.some.injEq, Fin.ext_iff]
        simp only [lastDigit, Fin.val_zero]
        omega
      · have first := inductionHypothesis (n / 10) (by omega) (by omega)
        rw [digits_of_le (by omega)]
        cases higher : digits (n / 10) with
        | nil => exact absurd higher (digits_ne_nil _)
        | cons d ds => rwa [higher] at first

theorem length_digits_le {width n : Nat} (wide : 0 < width) (small : n < 10 ^ width) :
    (digits n).length ≤ width := by
  induction width generalizing n with
  | zero => exact absurd wide (Nat.lt_irrefl 0)
  | succ width inductionHypothesis =>
      by_cases single : n < 10
      · rw [digits_of_lt single]
        exact Nat.succ_le_succ (Nat.zero_le width)
      · rw [digits_of_le (by omega), List.length_append, List.length_singleton]
        refine Nat.succ_le_succ (inductionHypothesis ?_ ?_)
        · by_contra widthless
          obtain rfl : width = 0 := by omega
          omega
        · rw [Nat.pow_succ] at small
          omega

@[simp]
theorem value_zeros_append (count : Nat) (ds : List Digit) :
    value (List.replicate count 0 ++ ds) = value ds := by
  induction count with
  | zero => rfl
  | succ count inductionHypothesis => exact inductionHypothesis

/-- Padding is digits too: zeros, which count for nothing. -/
theorem exists_padded_eq (width n : Nat) (wide : 0 < width) :
    ∃ ds, padded width n = chars ds ∧ ds ≠ [] ∧ value ds = n ∧
      (n < 10 ^ width → ds.length ≤ width) := by
  refine ⟨List.replicate (width - (digits n).length) 0 ++ digits n, ?_, ?_, ?_, ?_⟩
  · simp only [padded, write, chars, List.map_append, List.map_replicate, List.length_map]
    rfl
  · exact List.append_ne_nil_of_right_ne_nil _ (digits_ne_nil n)
  · rw [value_zeros_append, value_digits]
  · intro small
    have short := length_digits_le wide small
    rw [List.length_append, List.length_replicate]
    omega

end FacetedSearch.Decimal
