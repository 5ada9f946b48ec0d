import FacetedSearch.Proofs.Paging
import FacetedSearch.Query
import Mathlib.Order.Interval.Set.Defs

/-!
# Pages divide the rows of a result

There is a page with a number exactly when the rows of the pages before it do not make up the
whole result.  Where a page starts is then a number within the result, so it is never cut off, and
each row lies on one page.  The start of a page that does not exist stops at the largest word.
-/

namespace FacetedSearch.Paging

variable {paging : Paging} {page : UInt64}

/-- The rows of a full page, numbered from zero. -/
def rows (paging : Paging) (page : UInt64) : Set ℕ :=
  let first := { paging with page }.offset.toNat
  Set.Ico first (first + paging.size.toNat)

@[simp]
theorem toNat_offset (paging : Paging) :
    paging.offset.toNat =
      min ((paging.page.toNat - 1) * paging.size.toNat) Saturating.top := by
  unfold offset pageStart Saturating.mul
  rw [Saturating.toNat_ofNat, Saturating.toNat_pred]

theorem offset_mono {later : UInt64} (ordered : page ≤ later) :
    { paging with page }.offset ≤ { paging with page := later }.offset := by
  rw [UInt64.le_iff_toNat_le] at ordered ⊢
  rw [toNat_offset, toNat_offset]
  apply min_le_min_right
  apply Nat.mul_le_mul_right
  exact Nat.sub_le_sub_right ordered 1

theorem isLeast_pages (sized : 1 ≤ paging.size) :
    IsLeast {count : ℕ | paging.total.toNat ≤ count * paging.size.toNat} paging.pages.toNat := by
  have positive : 0 < paging.size.toNat := UInt64.le_iff_toNat_le.mp sized
  rw [toNat_pages]
  constructor
  · change paging.total.toNat ≤ _ * paging.size.toNat
    rw [Nat.mul_comm]
    exact (ceilDiv_le_iff_le_mul positive).mp le_rfl
  · intro count enough
    apply (ceilDiv_le_iff_le_mul positive).mpr
    rw [Nat.mul_comm]
    exact enough

/-- There is a page exactly when the pages before it leave something of the result. -/
theorem hasPage_iff_lt_total (sized : 1 ≤ paging.size) :
    paging.hasPage page = true ↔
      1 ≤ page.toNat ∧ (page.toNat - 1) * paging.size.toNat < paging.total.toNat := by
  have least := isLeast_pages sized
  have before : paging.pages.toNat ≤ page.toNat - 1 ↔
      paging.total.toNat ≤ (page.toNat - 1) * paging.size.toNat := by
    refine ⟨fun fewer => ?_, fun enough => least.2 enough⟩
    exact le_trans least.1 (Nat.mul_le_mul_right _ fewer)
  rw [hasPage_eq_true_iff, UInt64.le_iff_toNat_le, UInt64.le_iff_toNat_le]
  change 1 ≤ page.toNat ∧ _ ↔ _
  omega

/-- The start of a page that exists is not cut off. -/
theorem toNat_offset_of_hasPage (sized : 1 ≤ paging.size) (there : paging.hasPage page = true) :
    { paging with page }.offset.toNat = (page.toNat - 1) * paging.size.toNat := by
  have inside := ((hasPage_iff_lt_total sized).mp there).2
  rw [toNat_offset]
  apply Nat.min_eq_left
  exact inside.le.trans (Saturating.toNat_le_top paging.total)

theorem mem_rows_iff (sized : 1 ≤ paging.size) (there : paging.hasPage page = true) {row : ℕ} :
    row ∈ paging.rows page ↔ row / paging.size.toNat = page.toNat - 1 := by
  have positive : 0 < paging.size.toNat := UInt64.le_iff_toNat_le.mp sized
  unfold rows
  rw [toNat_offset_of_hasPage sized there, Set.mem_Ico, Nat.div_eq_iff positive]
  omega

theorem existsUnique_page_of_row (sized : 1 ≤ paging.size) {row : ℕ}
    (inside : row < paging.total.toNat) :
    ∃! page, paging.hasPage page = true ∧ row ∈ paging.rows page := by
  have fits : row / paging.size.toNat + 1 < UInt64.size := by
    have quotient := Nat.div_le_self row paging.size.toNat
    have total : paging.total.toNat < UInt64.size := paging.total.toNat_lt
    omega
  have number : (UInt64.ofNat (row / paging.size.toNat + 1)).toNat =
      row / paging.size.toNat + 1 := UInt64.toNat_ofNat_of_lt fits
  have there : paging.hasPage (UInt64.ofNat (row / paging.size.toNat + 1)) = true := by
    rw [hasPage_iff_lt_total sized, number, Nat.add_sub_cancel]
    exact ⟨Nat.le_add_left 1 _, lt_of_le_of_lt (Nat.div_mul_le_self _ _) inside⟩
  refine ⟨_, ⟨there, ?_⟩, ?_⟩
  · rw [mem_rows_iff sized there, number, Nat.add_sub_cancel]
  · rintro page ⟨found, within⟩
    have positive := ((hasPage_iff_lt_total sized).mp found).1
    rw [mem_rows_iff sized found] at within
    apply UInt64.toNat_inj.mp
    omega

/-- The number of pages is the least that is enough for the result.  A page that exists starts where
the pages before it end, within the result, and at the place that its request asks for; each row of
the result is on exactly one such page.  For every number of a page this place is the exact one or
the largest word, and it does not go back as the number grows. -/
theorem pages_divide_rows {paging : Paging} (sized : 1 ≤ paging.size) (query : String) :
    IsLeast {count : ℕ | paging.total.toNat ≤ count * paging.size.toNat} paging.pages.toNat ∧
    (∀ page, paging.hasPage page = true →
      ({ paging with page }.offset.toNat : ℤ) = (page.toNat - 1) * paging.size.toNat ∧
        { paging with page }.offset < paging.total) ∧
    (∀ row < paging.total.toNat, ∃! page, paging.hasPage page = true ∧ row ∈ paging.rows page) ∧
    (∀ page, { paging with page }.offset = Request.start ⟨query, page, paging.size⟩ ∧
      { paging with page }.offset.toNat =
        min ((page.toNat - 1) * paging.size.toNat) Saturating.top) ∧
    ∀ page later, page ≤ later →
      { paging with page }.offset ≤ { paging with page := later }.offset := by
  refine ⟨isLeast_pages sized, ?_, fun row => existsUnique_page_of_row sized, ?_,
    fun _ _ => offset_mono⟩
  · intro page there
    obtain ⟨positive, inside⟩ := (hasPage_iff_lt_total sized).mp there
    have exactly := toNat_offset_of_hasPage sized there
    constructor
    · rw [exactly, Nat.cast_mul, Nat.cast_sub positive, Nat.cast_one]
    · rw [UInt64.lt_iff_toNat_lt, exactly]
      exact inside
  · exact fun page => ⟨rfl, toNat_offset { paging with page }⟩

/-- As many results as can be counted, ten on a page: the last page starts five rows from the end.
-/
theorem pages_divide_rows_fullCount :
    let paging : Paging := ⟨1, 10, 0xFFFFFFFFFFFFFFFF⟩
    let page : UInt64 := 1844674407370955162
    1 ≤ paging.size ∧ paging.pages = page ∧ paging.hasPage page = true ∧
      ({ paging with page }.offset.toNat : ℤ) = 18446744073709551610 ∧
      { paging with page }.offset = Request.start ⟨"*:*", page, 10⟩ ∧
      (∃! page, paging.hasPage page = true ∧ 18446744073709551614 ∈ paging.rows page) ∧
      { paging with page }.offset ≤ { paging with page := page + 1 }.offset := by
  intro paging page
  have sized : 1 ≤ paging.size := by decide
  have there : paging.hasPage page = true := by decide +kernel
  obtain ⟨-, starts, rows, requests, grows⟩ := pages_divide_rows sized "*:*"
  refine ⟨sized, by decide +kernel, there, (starts page there).1.trans (by decide +kernel),
    (requests page).1, rows _ (by decide +kernel), grows page (page + 1) (by decide +kernel)⟩

end FacetedSearch.Paging
