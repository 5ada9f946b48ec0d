/-!
Counts that stop at the largest word.

Pages, sizes, totals and offsets are words of 64 bits.  Sums and products that would leave the
range give the largest word, and differences below zero give zero.
-/

namespace FacetedSearch.Saturating

/-- The largest word. -/
def top : Nat :=
  0xFFFFFFFFFFFFFFFF

/-- The number itself, or the largest word when the number does not fit. -/
def ofNat (n : Nat) : UInt64 :=
  UInt64.ofNat (min n top)

def succ (n : UInt64) : UInt64 :=
  ofNat (n.toNat + 1)

def pred (n : UInt64) : UInt64 :=
  ofNat (n.toNat - 1)

def mul (m n : UInt64) : UInt64 :=
  ofNat (m.toNat * n.toNat)

def add (m n : UInt64) : UInt64 :=
  ofNat (m.toNat + n.toNat)

/-- A word that stops at the top holds the number itself as long as the number fits. -/
@[simp]
theorem toNat_ofNat (n : Nat) : (ofNat n).toNat = min n top := by
  have fits : min n top < 2 ^ 64 := by
    unfold top
    omega
  unfold ofNat
  rw [UInt64.toNat_ofNat']
  exact Nat.mod_eq_of_lt fits

end FacetedSearch.Saturating
