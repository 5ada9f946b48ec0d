import FacetedSearch.Paging
import Mathlib.Algebra.Order.Floor.Div

/-!
The pages of a result, and positions that were brought back to them.

A position is in range when it lies between the first page and the last one, where a result without
pages counts as having a first page.  The number of pages is the number of results over the page
size, rounded up, and it fits a word.
-/

namespace FacetedSearch

namespace Saturating

theorem toNat_le_top (word : UInt64) : word.toNat ≤ top :=
  Nat.le_of_lt_succ word.toNat_lt

/-- The word before never leaves the range. -/
@[simp]
theorem toNat_pred (word : UInt64) : (pred word).toNat = word.toNat - 1 := by
  rw [pred, toNat_ofNat]
  exact Nat.min_eq_left ((Nat.sub_le _ 1).trans (toNat_le_top word))

end Saturating

namespace Paging

/-- The current page is one of those that `clamp` leaves alone. -/
def InRange (paging : Paging) : Prop :=
  1 ≤ paging.page ∧ paging.page ≤ paging.lastPage

instance (paging : Paging) : Decidable paging.InRange :=
  inferInstanceAs (Decidable (_ ∧ _))

@[simp]
theorem toNat_max (first second : UInt64) :
    (max first second).toNat = max first.toNat second.toNat := by
  have unfolded : max first second = if first ≤ second then second else first := rfl
  rw [unfolded]
  split
  next ordered => exact (Nat.max_eq_right (UInt64.le_iff_toNat_le.mp ordered)).symm
  next unordered =>
    have below := UInt64.lt_iff_toNat_lt.mp (UInt64.not_le.mp unordered)
    exact (Nat.max_eq_left (Nat.le_of_lt below)).symm

@[simp]
theorem le_max_right (first second : UInt64) : second ≤ max first second := by
  rw [UInt64.le_iff_toNat_le, toNat_max]
  exact Nat.le_max_right _ _

theorem max_of_le {first second : UInt64} (ordered : second ≤ first) :
    max first second = first := by
  apply UInt64.toNat_inj.mp
  rw [toNat_max]
  exact Nat.max_eq_left (UInt64.le_iff_toNat_le.mp ordered)

@[simp]
theorem one_le_lastPage (paging : Paging) : 1 ≤ paging.lastPage :=
  le_max_right paging.pages 1

/-- A result without entries has no pages. -/
theorem pages_of_total_eq_zero {paging : Paging} (empty : paging.total = 0) :
    paging.pages = 0 := by
  unfold pages
  rw [empty]
  have noPages : (0 + paging.size.toNat - 1) / paging.size.toNat = 0 := by
    cases size : paging.size.toNat with
    | zero => rfl
    | succ size => exact Nat.div_eq_of_lt (by omega)
  exact congrArg UInt64.ofNat noPages

theorem lastPage_of_total_eq_zero {paging : Paging} (empty : paging.total = 0) :
    paging.lastPage = 1 := by
  unfold lastPage
  rw [pages_of_total_eq_zero empty]
  rfl

@[simp]
theorem isPastEnd_eq_true_iff {paging : Paging} :
    paging.isPastEnd = true ↔ paging.lastPage < paging.page :=
  decide_eq_true_iff

@[simp]
theorem isPastEnd_eq_false_iff {paging : Paging} :
    paging.isPastEnd = false ↔ paging.page ≤ paging.lastPage := by
  rw [isPastEnd, decide_eq_false_iff_not, UInt64.not_lt]

theorem clamp_of_isPastEnd {paging : Paging} (past : paging.isPastEnd = true) :
    paging.clamp = { paging with page := paging.lastPage } := by
  have beyond := isPastEnd_eq_true_iff.mp past
  exact if_neg (UInt64.not_le.mpr beyond)

/-- Pulling a position back leaves the lesser of its page and the last one. -/
@[simp]
theorem toNat_page_clamp (paging : Paging) :
    paging.clamp.page.toNat = min paging.page.toNat paging.lastPage.toNat := by
  unfold clamp
  split
  next below => exact (Nat.min_eq_left (UInt64.le_iff_toNat_le.mp below)).symm
  next beyond =>
    have past := UInt64.lt_iff_toNat_lt.mp (UInt64.not_le.mp beyond)
    exact (Nat.min_eq_right (Nat.le_of_lt past)).symm

@[simp]
theorem goTo?_eq_some_iff {paging moved : Paging} {page : UInt64} :
    paging.goTo? page = some moved ↔
      paging.hasPage page = true ∧ moved = { paging with page } := by
  unfold goTo?
  cases paging.hasPage page with
  | true => simp [eq_comm]
  | false => simp

@[simp]
theorem hasPage_eq_true_iff {paging : Paging} {page : UInt64} :
    paging.hasPage page = true ↔ 1 ≤ page ∧ page ≤ paging.pages := by
  simp [hasPage]

/-- A restored position is never before the first page. -/
@[simp]
theorem one_le_page_restore (paging : Paging) (page : UInt64) :
    1 ≤ (paging.restore page).page :=
  le_max_right page 1

theorem page_restore_of_one_le {page : UInt64} (positive : 1 ≤ page) (paging : Paging) :
    (paging.restore page).page = page :=
  max_of_le positive

/-! ## The number of pages -/

variable {paging : Paging}

@[simp]
theorem toNat_pages (paging : Paging) :
    paging.pages.toNat = paging.total.toNat ⌈/⌉ paging.size.toNat := by
  have fits : paging.total.toNat ⌈/⌉ paging.size.toNat ≤ paging.total.toNat := by
    rcases Nat.eq_zero_or_pos paging.size.toNat with unsized | sized
    · rw [unsized, ceilDiv_zero]
      exact Nat.zero_le _
    · rw [ceilDiv_le_iff_le_mul sized]
      exact Nat.le_mul_of_pos_left _ sized
  unfold pages
  rw [UInt64.toNat_ofNat', ← Nat.ceilDiv_eq_add_pred_div]
  exact Nat.mod_eq_of_lt (Nat.lt_of_le_of_lt fits paging.total.toNat_lt)

@[simp]
theorem toNat_lastPage (paging : Paging) :
    paging.lastPage.toNat = max 1 (paging.total.toNat ⌈/⌉ paging.size.toNat) := by
  rw [lastPage, toNat_max, toNat_pages, Nat.max_comm]
  rfl

/-- A result with entries has a page, if a page holds anything. -/
theorem one_le_pages (sized : 0 < paging.size) (full : 0 < paging.total) : 1 ≤ paging.pages := by
  rw [UInt64.le_iff_toNat_le, toNat_pages]
  by_contra pageless
  have empty : paging.total.toNat ⌈/⌉ paging.size.toNat ≤ 0 := by
    simpa using pageless
  rw [ceilDiv_le_iff_le_mul (UInt64.lt_iff_toNat_lt.mp sized), Nat.mul_zero] at empty
  exact absurd (UInt64.lt_iff_toNat_lt.mp full) (Nat.not_lt.mpr empty)

theorem lastPage_of_one_le_pages (filled : 1 ≤ paging.pages) : paging.lastPage = paging.pages :=
  max_of_le filled

end Paging

end FacetedSearch
