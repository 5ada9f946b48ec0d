import FacetedSearch.Decimal

/-!
The shortest decimal that stands for a binary floating-point number.

A finite number of 64 bits is `significand * 2 ^ exponent`.  A decimal stands for it when it lies
among the real numbers that round to it: between the midpoints to its two neighbours, and on a
midpoint exactly when the significand is even.  Of the decimals with the fewest digits the closest
is chosen, and of two equally close ones the even one.
-/

namespace FacetedSearch.Decimal

/-- A positive number `significand * 2 ^ exponent`. -/
structure Binary where
  significand : Nat
  exponent : Int
  /-- The neighbour below is half as far away as the neighbour above. -/
  narrowBelow : Bool

/-- The number `digits * 10 ^ exponent`. -/
structure Scaled where
  number : Nat
  exponent : Int
deriving DecidableEq

/-- A power of two; there are none below one. -/
def twoTo (exponent : Int) : Nat :=
  Nat.pow 2 exponent.toNat

/-- A power of five; there are none below one. -/
def fiveTo (exponent : Int) : Nat :=
  Nat.pow 5 exponent.toNat

/-- A power of ten; there are none below one. -/
def tenTo (exponent : Int) : Nat :=
  Nat.pow 10 exponent.toNat

/-- The leading bit of a number, which is not written. -/
def leadingBit : Nat :=
  0x10000000000000

/-- The magnitude of a finite number from its 64 bits. -/
def Binary.ofBits (bits : UInt64) : Binary :=
  let biased : Nat := bits.toNat / leadingBit % 0x800
  let fraction : Nat := bits.toNat % leadingBit
  if biased = 0 then ⟨fraction, -1074, false⟩
  else ⟨leadingBit + fraction, (biased : Int) - 1075, fraction == 0 && decide (1 < biased)⟩

/-- Compares `number * 10 ^ exponent` with `other * 2 ^ power` exactly. -/
def Scaled.compareTo (decimal : Scaled) (other : Nat) (power : Int) : Ordering :=
  compare (decimal.number * tenTo decimal.exponent * twoTo (-power))
    (other * twoTo power * tenTo (-decimal.exponent))

/-- Whether a decimal stands for a number. -/
def Binary.readsAs (binary : Binary) (decimal : Scaled) : Bool :=
  let below := 4 * binary.significand - if binary.narrowBelow then 1 else 2
  let above := 4 * binary.significand + 2
  let quarter := binary.exponent - 2
  let onMidpoint := binary.significand % 2 == 0
  (match decimal.compareTo below quarter with
    | .gt => true
    | .eq => onMidpoint
    | .lt => false) &&
  (match decimal.compareTo above quarter with
    | .lt => true
    | .eq => onMidpoint
    | .gt => false)

/-- How often a power of ten goes into a number. -/
def Binary.quotient (binary : Binary) (exponent : Int) : Nat :=
  binary.significand * twoTo binary.exponent * tenTo (-exponent) /
    (tenTo exponent * twoTo (-binary.exponent))

/-- The closer of a decimal and its upper neighbour on the same grid, when both stand for the
number: the number is compared with the midpoint of the two. -/
def Binary.closer (binary : Binary) (lower upper : Scaled) : Scaled :=
  match (Scaled.mk (lower.number + upper.number) lower.exponent).compareTo
      (2 * binary.significand) binary.exponent with
  | .gt => lower
  | .lt => upper
  | .eq => if lower.number % 2 = 0 then lower else upper

/-- The best decimal on the grid of a power of ten, if one there stands for the number. -/
def Binary.onGrid? (binary : Binary) (exponent : Int) : Option Scaled :=
  let lower : Scaled := ⟨binary.quotient exponent, exponent⟩
  let upper : Scaled := ⟨lower.number + 1, exponent⟩
  match binary.readsAs lower, binary.readsAs upper with
  | true, true => some (binary.closer lower upper)
  | true, false => some lower
  | false, true => some upper
  | false, false => none

/-- Looks through `count` grids from a coarse one to ever finer ones. -/
def Binary.search (binary : Binary) : (count : Nat) → (exponent : Int) → Option Scaled
  | 0, _ => none
  | count + 1, exponent =>
      match binary.onGrid? exponent with
      | some decimal => some decimal
      | none => binary.search count (exponent - 1)

/-- The number itself in decimal. -/
def Binary.exactly (binary : Binary) : Scaled :=
  ⟨binary.significand * twoTo binary.exponent * fiveTo (-binary.exponent), min binary.exponent 0⟩

/-- The shortest decimal that stands for a number that is not zero.  The search starts above the
leading digit, and seventeen digits always suffice. -/
def Binary.shortest (binary : Binary) : Scaled :=
  let magnitude := ((binary.significand.log2 : Int) + binary.exponent) * 30103 / 100000
  (binary.search 22 (magnitude + 2)).getD binary.exactly

end FacetedSearch.Decimal
