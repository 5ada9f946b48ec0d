import FacetedSearch.Form
import FacetedSearch.Proofs.Filter.Building

/-!
# Blank rows and rows that are set

Setting a row changes the first row of its label, and appends one only where there is none.  The
form of a registry is blank, and so is every form once it is emptied: it makes no filter.  When one
row of a blank form is set, the filters of the form are those of this row.
-/

namespace FacetedSearch

open Text

section Rows

variable {Row Made : Type} {labelOf : Row → String} {blank : String → Row} {label : String}
  {edit : Row → Row} {rows : List Row}

theorem map_label_editRow (labelled : ∀ label, labelOf (blank label) = label)
    (kept : ∀ row, labelOf (edit row) = labelOf row) (rows : List Row) :
    (editRow labelOf blank label edit rows).map labelOf =
      if label ∈ rows.map labelOf then rows.map labelOf else rows.map labelOf ++ [label] := by
  induction rows with
  | nil => simp [editRow, kept, labelled]
  | cons row rows inductionHypothesis =>
      by_cases same : labelOf row = label
      · simp [editRow, same, kept]
      · have other : label ≠ labelOf row := Ne.symm same
        simp only [editRow, if_neg same, List.map_cons, List.mem_cons, other, false_or,
          inductionHypothesis]
        split <;> rfl

/-- The row that is set is the only one of its label, if there was no other. -/
theorem filter_label_editRow (labelled : ∀ label, labelOf (blank label) = label)
    (kept : ∀ row, labelOf (edit row) = labelOf row)
    (single : (rows.filter fun row => labelOf row == label) = [blank label]) :
    ((editRow labelOf blank label edit rows).filter fun row => labelOf row == label) =
      [edit (blank label)] := by
  induction rows with
  | nil => cases single
  | cons row rows inductionHypothesis =>
      by_cases same : labelOf row = label
      · simp only [List.filter_cons, same, beq_self_eq_true, if_true, List.cons.injEq] at single
        simp [editRow, kept, single.1, single.2, labelled]
      · simp only [List.filter_cons, beq_eq_false_iff_ne.mpr same, Bool.false_eq_true,
          if_false] at single
        simp only [editRow, if_neg same, List.filter_cons, beq_eq_false_iff_ne.mpr same,
          Bool.false_eq_true, if_false]
        exact inductionHypothesis single

/-- Of blank rows, of which one is set, only this one can make anything. -/
theorem filterMap_editRow {make : Row → Option Made} (idle : ∀ label, make (blank label) = none)
    (blanks : ∀ row ∈ rows, row = blank (labelOf row)) :
    (editRow labelOf blank label edit rows).filterMap make =
      (make (edit (blank label))).toList := by
  induction rows with
  | nil =>
      unfold editRow
      cases made : make (edit (blank label)) <;> simp [made]
  | cons row rows inductionHypothesis =>
      have isBlank := blanks row List.mem_cons_self
      have others := fun other membership => blanks other (List.mem_cons_of_mem row membership)
      have idleRest : ∀ other ∈ rows, make other = none := by
        intro other membership
        rw [others other membership]
        exact idle _
      by_cases same : labelOf row = label
      · rw [same] at isBlank
        have rest : rows.filterMap make = [] := List.filterMap_eq_nil_iff.mpr idleRest
        unfold editRow
        rw [if_pos same, isBlank]
        cases made : make (edit (blank label)) <;> simp [made, rest]
      · unfold editRow
        rw [if_neg same, List.filterMap_cons_none, inductionHypothesis others]
        rw [isBlank]
        exact idle _

end Rows

namespace Form

variable {form : Form} {registry : Registry} {today : Calendar.Date}

def textLabels (form : Form) : List String :=
  form.texts.map (·.label)

def dateLabels (form : Form) : List String :=
  form.dates.map (·.label)

@[simp]
theorem textLabels_ofRegistry (registry : Registry) :
    (ofRegistry registry).textLabels = (registry.ofKind .text).map (·.label) :=
  List.map_map ..

@[simp]
theorem dateLabels_ofRegistry (registry : Registry) :
    (ofRegistry registry).dateLabels = (registry.ofKind .date).map (·.label) :=
  List.map_map ..

/-- Setting a row that is there adds none. -/
theorem textLabels_setText {label : String} (present : label ∈ form.textLabels) (value : String)
    (operator : Operator) : (form.setText label value operator).textLabels = form.textLabels := by
  have labelled : ∀ label, (TextRow.blank label).label = label := fun _ => rfl
  have kept : ∀ row : TextRow, { row with value, operator }.label = row.label := fun _ => rfl
  exact (map_label_editRow labelled kept form.texts).trans (if_pos present)

theorem dateLabels_setDates {label : String} (present : label ∈ form.dateLabels)
    (lower upper : String) : (form.setDates label lower upper).dateLabels = form.dateLabels := by
  have labelled : ∀ label, (DateRow.blank label).label = label := fun _ => rfl
  have kept : ∀ row : DateRow, { row with lower, upper }.label = row.label := fun _ => rfl
  exact (map_label_editRow labelled kept form.dates).trans (if_pos present)

/-- Nothing has been put into the form, and every operator is the first one. -/
structure IsBlank (form : Form) : Prop where
  texts : ∀ row ∈ form.texts, row = .blank row.label
  dates : ∀ row ∈ form.dates, row = .blank row.label
  values : form.values = .blank

theorem isBlank_ofRegistry (registry : Registry) : (ofRegistry registry).IsBlank := by
  refine ⟨?_, ?_, rfl⟩ <;>
    · intro row membership
      obtain ⟨field, -, rfl⟩ := List.mem_map.mp membership
      rfl

theorem isBlank_reset (form : Form) : form.reset.IsBlank := by
  refine ⟨?_, ?_, rfl⟩ <;>
    · intro row membership
      obtain ⟨before, -, rfl⟩ := List.mem_map.mp membership
      rfl

@[simp]
theorem textLabels_reset (form : Form) : form.reset.textLabels = form.textLabels :=
  List.map_map ..

@[simp]
theorem dateLabels_reset (form : Form) : form.reset.dateLabels = form.dateLabels :=
  List.map_map ..

/-! ## The filters of blank rows -/

@[simp]
theorem isFilled_empty : isFilled "" = false :=
  rfl

@[simp]
theorem textFilter?_blank (registry : Registry) (label : String) :
    textFilter? registry (.blank label) = none := by
  rw [← Option.not_isSome_iff_eq_none, textFilter?, Filter.isSome_ofText?, TextRow.blank,
    isFilled_empty]
  exact Bool.false_ne_true

@[simp]
theorem dateFilter?_blank (registry : Registry) (today : Calendar.Date) (label : String) :
    dateFilter? registry today (.blank label) = none := by
  rw [← Option.not_isSome_iff_eq_none, dateFilter?, Filter.isSome_ofDates?, DateRow.blank,
    Option.any_some, isFilled_empty]
  exact Bool.false_ne_true

@[simp]
theorem ofValues?_blank (registry : Registry) :
    Filter.ofValues? registry (some ValueRow.blank.lower) (some ValueRow.blank.upper) = none := by
  rw [← Option.not_isSome_iff_eq_none, Filter.isSome_ofValues?, ValueRow.blank, Option.any_some,
    isFilled_empty]
  exact Bool.false_ne_true

namespace IsBlank

theorem textFilters (blank : form.IsBlank) (registry : Registry) :
    form.texts.filterMap (textFilter? registry) = [] := by
  rw [List.filterMap_eq_nil_iff]
  intro row membership
  rw [blank.texts row membership]
  exact textFilter?_blank registry _

theorem dateFilters (blank : form.IsBlank) (registry : Registry) (today : Calendar.Date) :
    form.dates.filterMap (dateFilter? registry today) = [] := by
  rw [List.filterMap_eq_nil_iff]
  intro row membership
  rw [blank.dates row membership]
  exact dateFilter?_blank registry today _

theorem collect (blank : form.IsBlank) (registry : Registry) (today : Calendar.Date) :
    form.collect registry today = [] := by
  unfold Form.collect
  rw [blank.textFilters, blank.dateFilters, blank.values, ofValues?_blank]
  rfl

theorem collect_setText (blank : form.IsBlank) (registry : Registry) (today : Calendar.Date)
    (label value : String) (operator : Operator) :
    (form.setText label value operator).collect registry today =
      (Filter.ofText? registry label value operator).toList := by
  unfold Form.collect setText editText
  rw [filterMap_editRow (textFilter?_blank registry) blank.texts, blank.dateFilters, blank.values,
    ofValues?_blank, List.append_nil, Option.toList_none, List.append_nil]
  rfl

theorem collect_setDates (blank : form.IsBlank) (registry : Registry) (today : Calendar.Date)
    (label lower upper : String) :
    (form.setDates label lower upper).collect registry today =
      (Filter.ofDates? registry label (some lower) (some upper) today).toList := by
  unfold Form.collect setDates
  rw [filterMap_editRow (dateFilter?_blank registry today) blank.dates, blank.textFilters,
    blank.values, ofValues?_blank, Option.toList_none, List.append_nil, List.nil_append]
  rfl

end IsBlank

end Form

end FacetedSearch
