import FacetedSearch.Filter
import FacetedSearch.Proofs.Text.Blank

/-!
# What an input makes

An input makes a filter exactly when it holds a character that is not blank.  What the criterion of
the filter takes from the input is trimmed and not empty; a literal is escaped once; a range has a
bound, and a range of days is closed at its end even when the input is not.
-/

namespace FacetedSearch

open Text

/-- A range is not open on both sides, and what bounds it is trimmed and not empty. -/
def Bounded (lower upper : Option String) : Prop :=
  (lower.isSome = true ∨ upper.isSome = true) ∧
    ∀ bound, lower = some bound ∨ upper = some bound → IsTidy bound

/-- What every criterion that is made from an input keeps. -/
def Criterion.IsBuilt : Criterion → Prop
  | .text criterion => IsTidy criterion.raw ∧ criterion.escaped = Query.escapeLiteral criterion.raw
  | .dateRange criterion => Bounded criterion.lower criterion.upper
  | .numericRange criterion => Bounded criterion.lower criterion.upper

/-- The day that closes a range of days. -/
def DateCriterion.lastDay (criterion : DateCriterion) : String :=
  criterion.upper.getD (String.ofList criterion.today.isoText)

@[simp]
theorem isSome_bind_filled? (bound : Option String) :
    (bound.bind filled?).isSome = bound.any isFilled := by
  cases bound with
  | none => rfl
  | some text =>
      rw [Option.bind_some, filled?_eq]
      cases filled : isFilled text <;> simp [filled]

theorem bounded_bind_filled? {lower upper : Option String}
    (filled : (lower.any isFilled || upper.any isFilled) = true) :
    Bounded (lower.bind filled?) (upper.bind filled?) := by
  rw [← isSome_bind_filled?, ← isSome_bind_filled?, Bool.or_eq_true] at filled
  refine ⟨filled, ?_⟩
  rintro bound (found | found) <;>
    · obtain ⟨text, -, core⟩ := Option.bind_eq_some_iff.mp found
      exact isTidy_of_filled? core

namespace Filter

variable {registry : Registry} {label value : String} {operator : Operator}
  {lower upper : Option String} {today : Calendar.Date} {filter : Filter} {criterion : Criterion}

/-! ## Text filters -/

theorem ofText?_eq (registry : Registry) (label value : String) (operator : Operator) :
    ofText? registry label value operator =
      if isFilled value then
        some {
          label := normalizeLabel label
          display := trimmed value
          operator := some operator
          kind := .text
          criterion := (registry.text? (normalizeLabel label)).map fun field =>
            .text ⟨field.engineField, operator, trimmed value,
              Query.escapeLiteral (trimmed value)⟩ }
      else none := by
  unfold ofText?
  rw [filled?_eq]
  cases isFilled value <;> rfl

@[simp]
theorem isSome_ofText? (registry : Registry) (label value : String) (operator : Operator) :
    (ofText? registry label value operator).isSome = isFilled value := by
  rw [ofText?_eq]
  cases isFilled value <;> rfl

theorem isBuilt_of_ofText? (made : ofText? registry label value operator = some filter)
    (asked : filter.criterion = some criterion) : criterion.IsBuilt := by
  rw [ofText?_eq] at made
  split at made
  next filled =>
    obtain rfl := Option.some.inj made
    obtain ⟨field, -, rfl⟩ := Option.map_eq_some_iff.mp asked
    exact ⟨isTidy_trimmed filled, rfl⟩
  next => cases made

/-! ## Date filters -/

@[simp]
theorem isSome_dateDisplay? (lower upper : Option String) :
    (dateDisplay? lower upper).isSome = (lower.isSome || upper.isSome) := by
  cases lower <;> cases upper <;> rfl

theorem ofDates?_eq (registry : Registry) (label : String) (lower upper : Option String)
    (today : Calendar.Date) :
    ofDates? registry label lower upper today =
      (dateDisplay? (lower.bind filled?) (upper.bind filled?)).map fun display => {
        label := trimmed label
        display
        operator := none
        kind := .date
        criterion := (registry.date? (trimmed label)).map fun field =>
          .dateRange ⟨field.engineField, lower.bind filled?, upper.bind filled?, today⟩ } := by
  rw [Option.map_eq_bind]
  rfl

theorem isSome_ofDates? (registry : Registry) (label : String) (lower upper : Option String)
    (today : Calendar.Date) :
    (ofDates? registry label lower upper today).isSome =
      (lower.any isFilled || upper.any isFilled) := by
  rw [ofDates?_eq, Option.isSome_map, isSome_dateDisplay?, isSome_bind_filled?,
    isSome_bind_filled?]

theorem criterion_of_ofDates? (made : ofDates? registry label lower upper today = some filter)
    (asked : filter.criterion = some criterion) :
    ∃ field, criterion = .dateRange ⟨field, lower.bind filled?, upper.bind filled?, today⟩ := by
  rw [ofDates?_eq] at made
  obtain ⟨display, -, rfl⟩ := Option.map_eq_some_iff.mp made
  obtain ⟨field, -, rfl⟩ := Option.map_eq_some_iff.mp asked
  exact ⟨field.engineField, rfl⟩

theorem isBuilt_of_ofDates? (made : ofDates? registry label lower upper today = some filter)
    (asked : filter.criterion = some criterion) : criterion.IsBuilt := by
  obtain ⟨field, rfl⟩ := criterion_of_ofDates? made asked
  apply bounded_bind_filled?
  rw [← isSome_ofDates? registry label lower upper today, made]
  rfl

/-! ## The value range -/

@[simp]
theorem isSome_valueDisplay? (lower upper : Option String) :
    (valueDisplay? lower upper).isSome = (lower.isSome || upper.isSome) := by
  cases lower <;> cases upper <;> rfl

theorem ofValues?_eq (registry : Registry) (lower upper : Option String) :
    ofValues? registry lower upper =
      (valueDisplay? (lower.bind filled?) (upper.bind filled?)).map fun display => {
        label := valueLabel
        display
        operator := none
        kind := .numeric
        criterion := registry.value?.map fun field =>
          .numericRange ⟨field.engineField, lower.bind filled?, upper.bind filled?⟩ } := by
  rw [Option.map_eq_bind]
  rfl

@[simp]
theorem isSome_ofValues? (registry : Registry) (lower upper : Option String) :
    (ofValues? registry lower upper).isSome = (lower.any isFilled || upper.any isFilled) := by
  rw [ofValues?_eq, Option.isSome_map, isSome_valueDisplay?, isSome_bind_filled?,
    isSome_bind_filled?]

theorem isBuilt_of_ofValues? (made : ofValues? registry lower upper = some filter)
    (asked : filter.criterion = some criterion) : criterion.IsBuilt := by
  have filled := isSome_ofValues? registry lower upper
  rw [made] at filled
  rw [ofValues?_eq] at made
  obtain ⟨display, -, rfl⟩ := Option.map_eq_some_iff.mp made
  obtain ⟨field, -, rfl⟩ := Option.map_eq_some_iff.mp asked
  exact bounded_bind_filled? filled.symm

end Filter

/-! ## The end of a range of days -/

theorem DateCriterion.fragment_eq (criterion : DateCriterion) :
    criterion.fragment =
      rangeClause criterion.field
        ((criterion.lower.map (· ++ startOfDay)).getD openBound)
        (criterion.lastDay ++ endOfDay) := by
  obtain ⟨field, lower, upper, today⟩ := criterion
  cases lower <;> rfl

theorem append_endOfDay_ne_openBound (day : String) : day ++ endOfDay ≠ openBound := by
  intro same
  have longer := congrArg (fun text => text.toList.length) same
  have ten : endOfDay.toList.length = 10 := by decide
  have one : openBound.toList.length = 1 := by decide
  simp only [String.toList_append, List.length_append, ten, one] at longer
  omega

end FacetedSearch
