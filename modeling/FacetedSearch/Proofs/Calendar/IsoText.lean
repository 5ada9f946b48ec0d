import FacetedSearch.Proofs.Calendar.DateText
import FacetedSearch.Proofs.Calendar.DayNumber

/-!
# Days that are read back as they were written

Every day of the calendar is written in a way that is read: years outside of four digits have a
sign in front, behind which the number of digits has no limit.  So a day is read back from its own
text, whether blanks are allowed around its hyphens or not.
-/

namespace FacetedSearch.Calendar

open Decimal

namespace Date

@[simp]
theorem day_le_thirtyOne (date : Date) : date.day ≤ 31 := by
  have bounded := date.exists_day.2.2.2
  rw [monthLength_eq _ date.one_le_month, List.getD_eq_getElem?_getD] at bounded
  refine Nat.le_trans bounded ?_
  cases within : (monthLengths date.year)[date.month - 1]? with
  | none => exact Nat.zero_le _
  | some length =>
      have membership := List.mem_of_getElem? within
      revert membership
      unfold monthLengths
      cases isLeap date.year <;> simp <;> omega

end Date

/-- A padded number is written without blanks and without a sign. -/
theorem exists_isPlain_padded (width n : Nat) (wide : 0 < width) (small : n < 10 ^ width) :
    ∃ written : WrittenNumber, written.IsPlain width ∧ written.text = padded width n ∧
      written.number = n ∧ written.sign = none := by
  obtain ⟨ds, same, nonempty, value, short⟩ := exists_padded_eq width n wide
  refine ⟨⟨[], none, ds⟩, ⟨⟨List.forall_mem_nil _, nonempty⟩, rfl, short small⟩, ?_⟩
  exact ⟨same.symm, value, rfl⟩

theorem exists_isYear_yearText (year : Int) :
    ∃ written : WrittenNumber, written.IsYear ∧ written.text = Date.yearText year ∧
      written.signed = year := by
  unfold Date.yearText
  split
  next range =>
    obtain ⟨written, plain, same, number, unsigned⟩ :=
      exists_isPlain_padded 4 year.toNat (by decide) (by omega)
    refine ⟨written, .inl plain, same, ?_⟩
    rw [WrittenNumber.signed, unsigned, number, if_neg (Option.some_ne_none '-').symm]
    exact Int.toNat_of_nonneg (by omega)
  next =>
    obtain ⟨ds, same, nonempty, value, -⟩ := exists_padded_eq 4 year.natAbs (by decide)
    by_cases negative : year < 0
    · refine ⟨⟨[], some '-', ds⟩, .inr ⟨⟨List.forall_mem_nil _, nonempty⟩, .inr rfl⟩, ?_, ?_⟩
      · rw [if_pos negative, same]
        rfl
      · change -((Decimal.value ds : Nat) : Int) = year
        rw [value]
        omega
    · refine ⟨⟨[], some '+', ds⟩, .inr ⟨⟨List.forall_mem_nil _, nonempty⟩, .inl rfl⟩, ?_, ?_⟩
      · rw [if_neg negative, same]
        rfl
      · change ((Decimal.value ds : Nat) : Int) = year
        rw [value]
        omega

theorem readsAs_isoText (date : Date) : ReadsAs date.isoText date := by
  obtain ⟨year, isYear, yearText, yearNumber⟩ := exists_isYear_yearText date.year
  have monthBound := date.month_le_twelve
  have dayBound := date.day_le_thirtyOne
  obtain ⟨month, isMonth, monthText, monthNumber, -⟩ :=
    exists_isPlain_padded 2 date.month (by decide) (by omega)
  obtain ⟨day, isDay, dayText, dayNumber, -⟩ :=
    exists_isPlain_padded 2 date.day (by decide) (by omega)
  refine ⟨⟨year, month, day⟩, ⟨isYear, isMonth, isDay⟩, ?_,
    yearNumber.symm, monthNumber.symm, dayNumber.symm⟩
  simp only [WrittenDay.text, Date.isoText, yearText, monthText, dayText, List.append_assoc,
    List.cons_append]

@[simp]
theorem read?_isoText (spacing : Spacing) (date : Date) :
    Date.read? spacing date.isoText = some date := by
  obtain ⟨written, readable, same, names⟩ := readsAs_isoText date
  rw [← same, readable.read?, Date.of?_eq_some_iff]
  exact ⟨names.year, names.month, names.day⟩

end FacetedSearch.Calendar
