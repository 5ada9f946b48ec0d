/-!
Numbers as bytes, the first of which weighs most, and bytes in hexadecimal digits.

`Bytes.write` gives the lowest bytes of a number, as many as are asked for, and `Bytes.read` gives
the number of a byte string.
-/

namespace FacetedSearch.Bytes

def read (bytes : List UInt8) : Nat :=
  bytes.foldl (fun number byte => number * 0x100 + byte.toNat) 0

def write : (width : Nat) → Nat → List UInt8
  | 0, _ => []
  | width + 1, number => write width (number / 0x100) ++ [UInt8.ofNat number]

@[simp]
theorem length_write (width number : Nat) : (write width number).length = width := by
  induction width generalizing number with
  | zero => rfl
  | succ width inductionHypothesis =>
      rw [write, List.length_append, inductionHypothesis, List.length_singleton]

/-- A byte at the end counts for itself, and moves all bytes before it up by one place. -/
@[simp]
theorem read_append_singleton (bytes : List UInt8) (byte : UInt8) :
    read (bytes ++ [byte]) = read bytes * 0x100 + byte.toNat := by
  rw [read, List.foldl_append]
  rfl

end FacetedSearch.Bytes

namespace FacetedSearch.Text

def lowerHexDigits : List Char :=
  "0123456789abcdef".toList

def upperHexDigits : List Char :=
  "0123456789ABCDEF".toList

def hexByte (digits : List Char) (byte : UInt8) : List Char :=
  [digits.getD (byte.toNat / 16) '0', digits.getD (byte.toNat % 16) '0']

def hexadecimal (bytes : List UInt8) : List Char :=
  bytes.flatMap (hexByte lowerHexDigits)

/-- The value of a hexadecimal digit, small or capital. -/
def hexValue? (c : Char) : Option Nat :=
  if '0' ≤ c ∧ c ≤ '9' then some (c.toNat - '0'.toNat)
  else if 'a' ≤ c ∧ c ≤ 'f' then some (c.toNat - 'a'.toNat + 10)
  else if 'A' ≤ c ∧ c ≤ 'F' then some (c.toNat - 'A'.toNat + 10)
  else none

end FacetedSearch.Text
