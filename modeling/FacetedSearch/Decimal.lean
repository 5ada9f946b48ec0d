/-!
Decimal digits of natural numbers.

`digits` writes a number with its most significant digit first and no leading zero; `value` reads
a digit string back.  `ofDigitChar?` and `digitChar` pass between digits and their characters.
-/

namespace FacetedSearch.Decimal

/-- One decimal digit. -/
abbrev Digit := Fin 10

def lastDigit (n : Nat) : Digit :=
  ⟨n % 10, Nat.mod_lt n (by decide)⟩

/-- The digits of a number below `10 ^ fuel` in front of the digits already written. -/
def digitsOnto : Nat → Nat → List Digit → List Digit
  | 0, _, written => written
  | fuel + 1, n, written =>
      if n < 10 then lastDigit n :: written
      else digitsOnto fuel (n / 10) (lastDigit n :: written)

/-- The digits of a number, most significant first. -/
def digits (n : Nat) : List Digit :=
  digitsOnto (n + 1) n []

/-- The number a digit string stands for when it continues the number `high`. -/
def valueFrom (high : Nat) (ds : List Digit) : Nat :=
  ds.foldl (fun value d => value * 10 + d.val) high

/-- The number a digit string stands for. -/
def value (ds : List Digit) : Nat :=
  valueFrom 0 ds

def digitChar (d : Digit) : Char :=
  Char.ofNat ('0'.toNat + d.val)

/-- The digit of a character, which has to be one of `0` to `9`. -/
def ofDigitChar? (c : Char) : Option Digit :=
  if h : '0'.toNat ≤ c.toNat ∧ c.toNat ≤ '9'.toNat then
    some ⟨c.toNat - '0'.toNat, by
      have upper : c.toNat ≤ 57 := h.2
      have lower : 48 ≤ c.toNat := h.1
      show c.toNat - 48 < 10
      omega⟩
  else none

def chars (ds : List Digit) : List Char :=
  ds.map digitChar

def write (n : Nat) : List Char :=
  chars (digits n)

def text (n : Nat) : String :=
  String.ofList (write n)

/-- The digits a text starts with and the text after them. -/
def spanDigits : List Char → List Digit × List Char
  | [] => ([], [])
  | c :: rest =>
      match ofDigitChar? c with
      | some d => (d :: (spanDigits rest).1, (spanDigits rest).2)
      | none => ([], c :: rest)

/-- At most `limit` of the digits a text starts with, and the text after them. -/
def takeDigits : Nat → List Char → List Digit × List Char
  | 0, text => ([], text)
  | _ + 1, [] => ([], [])
  | limit + 1, c :: rest =>
      match ofDigitChar? c with
      | some d => (d :: (takeDigits limit rest).1, (takeDigits limit rest).2)
      | none => ([], c :: rest)

/-- The number with its digits, padded on the left with zeros to at least `width` digits. -/
def padded (width n : Nat) : List Char :=
  let written := write n
  List.replicate (width - written.length) '0' ++ written

/-- The number written by a text that consists of digits and nothing else. -/
def ofText? (text : List Char) : Option Nat :=
  match spanDigits text with
  | (d :: ds, []) => some (value (d :: ds))
  | _ => none

/-- A digit is read back from its character. -/
@[simp]
theorem ofDigitChar?_digitChar (d : Digit) : ofDigitChar? (digitChar d) = some d := by
  revert d
  decide

end FacetedSearch.Decimal
