import FacetedSearch.Proofs.Calendar.DateText
import FacetedSearch.Proofs.Filter.Building

/-!
# What the tag of a date filter shows

The tag shows a bound day first, if a day can be read from it, and as it was typed otherwise.  The
query takes every bound as it was typed.  So tag and query say the same of a bound that is written
in four, two and two digits, and of one that is no day at all.  Of a day that is written in another
way that is read, the tag shows the day, and the query does not have it.
-/

namespace FacetedSearch

open Calendar Decimal Text

namespace Calendar

/-- A text is shown as it is, or it is a day in four, two and two digits and shown day first. -/
def IsFaithful (typed : String) : Prop :=
  displayText typed = typed ∨
    ∃ date, IsIsoFor typed.toList date ∧ displayText typed = String.ofList date.dayFirstText

variable {typed : String}

/-- What is shown day first is a day in four, two and two digits, unless it is written otherwise. -/
theorem isFaithful_iff :
    IsFaithful typed ↔ ∀ date, ReadsAs typed.toList date → IsIsoFor typed.toList date := by
  constructor
  · rintro (same | ⟨other, iso, -⟩) date reads
    · exact absurd same (displayText_ne_iff.mpr ⟨date, reads⟩)
    · rwa [reads.unique iso.readsAs]
  · intro strict
    by_cases same : displayText typed = typed
    · exact .inl same
    · obtain ⟨date, reads⟩ := displayText_ne_iff.mp same
      exact .inr ⟨date, strict date reads, displayText_of_readsAs reads⟩

theorem displayText_ne_iff_isIsoFor_iff :
    (displayText typed ≠ typed ↔ ∃ date, IsIsoFor typed.toList date) ↔ IsFaithful typed := by
  rw [isFaithful_iff, displayText_ne_iff]
  constructor
  · intro same date reads
    obtain ⟨other, iso⟩ := same.mp ⟨date, reads⟩
    rwa [reads.unique iso.readsAs]
  · intro strict
    exact ⟨fun ⟨date, reads⟩ => ⟨date, strict date reads⟩, fun ⟨date, iso⟩ => ⟨date, iso.readsAs⟩⟩

/-- A day in four, two and two digits is shown in the same digits, if it exists. -/
theorem displayText_of_isIso {written : WrittenDay} (isIso : written.IsIso)
    (same : written.text = typed.toList) :
    (displayText typed ≠ typed ↔
      DayExists written.year.number written.month.number written.day.number) ∧
    (displayText typed ≠ typed →
      displayText typed = String.ofList (chars written.day.digits ++
        '/' :: chars written.month.digits ++ '/' :: chars written.year.digits)) := by
  rw [displayText_ne_iff, ← same, isIso.exists_readsAs_iff]
  refine ⟨Iff.rfl, ?_⟩
  intro exists_day
  obtain ⟨date, reads⟩ := isIso.exists_readsAs_iff.mpr exists_day
  rw [← isIso.dayFirstText (isIso.names_of_readsAs reads)]
  rw [same] at reads
  exact displayText_of_readsAs reads

end Calendar

namespace Filter

variable {registry : Registry} {label : String} {lower upper : Option String}
  {today : Calendar.Date} {filter : Filter}

theorem display_of_ofDates? (made : ofDates? registry label lower upper today = some filter) :
    dateDisplay? (lower.bind filled?) (upper.bind filled?) = some filter.display := by
  rw [ofDates?_eq] at made
  obtain ⟨display, shown, rfl⟩ := Option.map_eq_some_iff.mp made
  exact shown

/-- A text is shown otherwise than it was typed exactly when a day can be read from it, and then
this day is shown.  A day in four, two and two digits is shown in the same digits.  So what is said
of a text holds exactly when it is not a day written in another way.  The tag of a date filter shows
its trimmed bounds in this manner, while its clause has them as they are. -/
theorem displayText_ne_iff_day_read (typed : String) :
    (displayText typed ≠ typed ↔ ∃ date, ReadsAs typed.toList date) ∧
    (∀ date, ReadsAs typed.toList date → displayText typed = String.ofList date.dayFirstText) ∧
    (∀ written : WrittenDay, written.IsIso → written.text = typed.toList →
      (displayText typed ≠ typed ↔
        DayExists written.year.number written.month.number written.day.number) ∧
      (displayText typed ≠ typed →
        displayText typed = String.ofList (chars written.day.digits ++
          '/' :: chars written.month.digits ++ '/' :: chars written.year.digits))) ∧
    ((displayText typed ≠ typed ↔ ∃ date, IsIsoFor typed.toList date) ↔ IsFaithful typed) ∧
    (IsFaithful typed ↔ ∀ date, ReadsAs typed.toList date → IsIsoFor typed.toList date) ∧
    ∀ registry label lower upper today filter,
      ofDates? registry label lower upper today = some filter →
        dateDisplay? (lower.bind filled?) (upper.bind filled?) = some filter.display ∧
        ∀ criterion, filter.criterion = some criterion →
          criterion.fragment =
            rangeClause criterion.field
              (((lower.bind filled?).map (· ++ startOfDay)).getD openBound)
              ((upper.bind filled?).getD (String.ofList today.isoText) ++ endOfDay) := by
  refine ⟨displayText_ne_iff, fun _ => displayText_of_readsAs, fun _ => displayText_of_isIso,
    displayText_ne_iff_isIsoFor_iff, isFaithful_iff, ?_⟩
  intro registry label lower upper today filter made
  refine ⟨display_of_ofDates? made, ?_⟩
  intro criterion asked
  obtain ⟨field, rfl⟩ := criterion_of_ofDates? made asked
  exact DateCriterion.fragment_eq _

/-- 5 January 2024, as typed in four, two and two digits. -/
def typedDay : WrittenDay :=
  ⟨⟨[], none, [2, 0, 2, 4].map lastDigit⟩, ⟨[], none, [0, 1].map lastDigit⟩,
    ⟨[], none, [0, 5].map lastDigit⟩⟩

/-- The same day behind a plus, with a blank before the month and in as few digits as possible. -/
def looselyTypedDay : WrittenDay :=
  ⟨⟨[], some '+', [2, 0, 2, 4].map lastDigit⟩, ⟨[' '], none, [lastDigit 1]⟩,
    ⟨[], none, [lastDigit 5]⟩⟩

theorem typedDay_isIso : typedDay.IsIso :=
  ⟨⟨rfl, rfl, rfl⟩, ⟨rfl, rfl, rfl⟩, ⟨rfl, rfl, rfl⟩⟩

theorem looselyTypedDay_isReadable : looselyTypedDay.IsReadable where
  year := .inr ⟨⟨List.forall_mem_nil _, List.cons_ne_nil _ _⟩, .inl rfl⟩
  month := ⟨⟨List.forall_mem_singleton.mpr rfl, List.cons_ne_nil _ _⟩, rfl, by decide⟩
  day := ⟨⟨List.forall_mem_nil _, List.cons_ne_nil _ _⟩, rfl, by decide⟩

theorem displayText_ne_iff_day_read_fifthOfJanuary :
    let today : Calendar.Date := ⟨2024, 6, 1, by decide⟩
    let day : Calendar.Date := ⟨2024, 1, 5, by decide⟩
    let field := "dt_protocolo_tdt"
    let filter : Filter := ⟨"Protocolo", "A partir de 05/01/2024", none, .date,
      some (.dateRange ⟨field, some "2024-01-05", none, today⟩)⟩
    (typedDay.IsIso ∧ typedDay.text = "2024-01-05".toList ∧
      displayText "2024-01-05" = "05/01/2024") ∧
    (ReadsAs "+2024- 1-5".toList day ∧
      displayText "+2024- 1-5" = String.ofList day.dayFirstText) ∧
    ofDates? .default "Protocolo" (some " 2024-01-05 ") none today = some filter ∧
      dateDisplay? (some "2024-01-05") none = some filter.display ∧
      filter.fragment? =
        some "dt_protocolo_tdt:[2024-01-05T00:00:00Z TO 2024-06-01T23:59:59Z]" := by
  intro today day field filter
  obtain ⟨-, -, iso, -, -, filters⟩ := displayText_ne_iff_day_read "2024-01-05"
  obtain ⟨-, shownLoosely, -⟩ := displayText_ne_iff_day_read "+2024- 1-5"
  have same : typedDay.text = "2024-01-05".toList := by decide +kernel
  have reads : ReadsAs "+2024- 1-5".toList day :=
    ⟨looselyTypedDay, looselyTypedDay_isReadable, by decide +kernel, rfl, rfl, rfl⟩
  have made : ofDates? .default "Protocolo" (some " 2024-01-05 ") none today = some filter := by
    decide +kernel
  have trimmedBound : (some " 2024-01-05 ").bind filled? = some "2024-01-05" := by decide +kernel
  refine ⟨⟨typedDay_isIso, same, ?_⟩, ⟨reads, ?_⟩, made, ?_, ?_⟩
  · obtain ⟨differs, shown⟩ := iso typedDay typedDay_isIso same
    rw [shown (differs.mpr (by decide))]
    decide +kernel
  · exact shownLoosely day reads
  · have shown := (filters _ _ _ _ _ _ made).1
    rwa [trimmedBound] at shown
  · have clause := (filters _ _ _ _ _ _ made).2 _ rfl
    rw [trimmedBound] at clause
    rw [fragment?, Option.map_some, clause]
    decide +kernel

/-- One digit is enough for a month or a day: the tag shows a date of which the clause has no such
text. -/
theorem not_typed_as_shown :
    let today : Calendar.Date := ⟨2024, 6, 1, by decide⟩
    let filter : Filter := ⟨"Protocolo", "A partir de 05/01/2024", none, .date,
      some (.dateRange ⟨"dt_protocolo_tdt", some "2024-1-5", none, today⟩)⟩
    displayText "2024-1-5" = "05/01/2024" ∧
    ofDates? .default "Protocolo" (some "2024-1-5") none today = some filter ∧
    filter.fragment? = some "dt_protocolo_tdt:[2024-1-5T00:00:00Z TO 2024-06-01T23:59:59Z]" ∧
    (∀ date, ¬IsIsoFor "2024-1-5".toList date) ∧
    ¬(displayText "2024-1-5" ≠ "2024-1-5" ↔ ∃ date, IsIsoFor "2024-1-5".toList date) := by
  intro today filter
  have shown : displayText "2024-1-5" = "05/01/2024" := by decide +kernel
  have notIso : ∀ date, ¬IsIsoFor "2024-1-5".toList date := by
    rintro date ⟨written, isIso, same, -⟩
    have length := isIso.length_text
    rw [same] at length
    revert length
    decide
  refine ⟨shown, by decide +kernel, by decide +kernel, notIso, ?_⟩
  intro claimed
  rw [shown] at claimed
  obtain ⟨date, iso⟩ := claimed.mp (by decide)
  exact notIso date iso

end Filter

end FacetedSearch
