import FacetedSearch.Form
import Mathlib.Data.List.Nodup

/-!
# Rows with different labels

An edit looks for the first row with a label and changes it, or adds a changed blank at the end.
Where no label is repeated, rows are known by what stands under each label, and an edit changes this
for one label only.  So edits of rows with different labels commute, unless both add a row.
-/

namespace FacetedSearch

variable {Row : Type} {labelOf : Row → String} {blank : String → Row} {labels : List String}
  {content : String → Row} {rows : List Row} {label other : String} {edit otherEdit : Row → Row}

/-- Labels with one more, at the end unless it is there already. -/
def withLabel (labels : List String) (label : String) : List String :=
  if label ∈ labels then labels else labels ++ [label]

/-- Rows with different labels, each with the content of its label.  What has no row is blank. -/
structure RowsByLabel (labelOf : Row → String) (blank : String → Row) (labels : List String)
    (content : String → Row) (rows : List Row) : Prop where
  rows_eq : rows = labels.map content
  distinct : labels.Nodup
  labelled : ∀ label, labelOf (content label) = label
  blank_of_notMem : ∀ label, label ∉ labels → content label = blank label

/-- One list of rows comes from another when a row with a label is changed, or is added at the end
because there was none. -/
inductive OneRow (labelOf : Row → String) (label : String) : List Row → List Row → Prop where
  | changed (earlier later : List Row) {row changed : Row} :
      labelOf row = label → labelOf changed = label →
      OneRow labelOf label (earlier ++ row :: later) (earlier ++ changed :: later)
  | added {rows : List Row} {row : Row} :
      label ∉ rows.map labelOf → labelOf row = label →
      OneRow labelOf label rows (rows ++ [row])

@[simp]
theorem mem_withLabel : other ∈ withLabel labels label ↔ other ∈ labels ∨ other = label := by
  unfold withLabel
  split
  next known => exact (or_iff_left_of_imp (· ▸ known)).symm
  next => rw [List.mem_append, List.mem_singleton]

theorem nodup_withLabel (distinct : labels.Nodup) (label : String) :
    (withLabel labels label).Nodup := by
  unfold withLabel
  split
  next => exact distinct
  next fresh => exact List.nodup_append_comm.mp (List.nodup_cons.mpr ⟨fresh, distinct⟩)

/-- An edit changes what stands under its label and nothing else. -/
theorem editRow_map (distinct : labels.Nodup) (labelled : ∀ label, labelOf (content label) = label)
    (fresh : label ∉ labels → content label = blank label) :
    editRow labelOf blank label edit (labels.map content) =
      (withLabel labels label).map fun other =>
        if label = other then edit (content other) else content other := by
  unfold withLabel
  induction labels with
  | nil => simp [editRow, fresh]
  | cons first rest inductionHypothesis =>
      obtain ⟨absent, restDistinct⟩ := List.nodup_cons.mp distinct
      rw [List.map_cons, editRow, labelled]
      by_cases same : first = label
      · -- No later row has the label, so all of them stay as they are.
        subst same
        have others : ∀ other ∈ rest,
            content other = if first = other then edit (content other) else content other := by
          intro other membership
          rw [if_neg (ne_of_mem_of_not_mem membership absent).symm]
        rw [if_pos rfl, if_pos List.mem_cons_self, List.map_cons, if_pos rfl,
          List.map_congr_left others]
      · have different : label ≠ first := Ne.symm same
        have restFresh : label ∉ rest → content label = blank label := by
          intro missing
          exact fresh (by simp [different, missing])
        rw [if_neg same, inductionHypothesis restDistinct restFresh]
        by_cases known : label ∈ rest <;> simp [known, different]

namespace RowsByLabel

theorem map_labelOf (known : RowsByLabel labelOf blank labels content rows) :
    rows.map labelOf = labels := by
  rw [known.rows_eq, List.map_map]
  exact (List.map_congr_left fun label _ => known.labelled label).trans (List.map_id labels)

theorem edited (known : RowsByLabel labelOf blank labels content rows) (label : String)
    (kept : ∀ row, labelOf (edit row) = labelOf row) :
    RowsByLabel labelOf blank (withLabel labels label)
      (fun other => if label = other then edit (content other) else content other)
      (editRow labelOf blank label edit rows) := by
  refine ⟨?rows, nodup_withLabel known.distinct label, ?labelled, ?blank⟩
  case rows =>
    rw [known.rows_eq]
    exact editRow_map known.distinct known.labelled (known.blank_of_notMem label)
  case labelled =>
    intro other
    split
    next => rw [kept, known.labelled]
    next => exact known.labelled other
  case blank =>
    intro other missing
    obtain ⟨absent, different⟩ := not_or.mp (mt mem_withLabel.mpr missing)
    rw [if_neg (Ne.symm different), known.blank_of_notMem other absent]

theorem emptied (known : RowsByLabel labelOf blank labels content rows)
    (labelledBlank : ∀ label, labelOf (blank label) = label) :
    RowsByLabel labelOf blank labels blank (rows.map fun row => blank (labelOf row)) := by
  refine ⟨?_, known.distinct, labelledBlank, fun _ _ => rfl⟩
  rw [known.rows_eq, List.map_map]
  exact List.map_congr_left fun label _ => congrArg blank (known.labelled label)

end RowsByLabel

theorem oneRow_editRow (labelledBlank : ∀ label, labelOf (blank label) = label) (label : String)
    (kept : ∀ row, labelOf (edit row) = labelOf row) (rows : List Row) :
    OneRow labelOf label rows (editRow labelOf blank label edit rows) := by
  induction rows with
  | nil => exact .added List.not_mem_nil ((kept _).trans (labelledBlank label))
  | cons row rows inductionHypothesis =>
      rw [editRow]
      split
      next same => exact .changed [] rows same ((kept row).trans same)
      next different =>
        generalize editRow labelOf blank label edit rows = edited at inductionHypothesis ⊢
        cases inductionHypothesis with
        | changed earlier later before after => exact .changed (row :: earlier) later before after
        | added missing labelled => exact .added (by simp [missing, Ne.symm different]) labelled

/-- Edits of rows with different labels commute if one of the rows is there. -/
theorem editRow_comm (kept : ∀ row, labelOf (edit row) = labelOf row)
    (otherKept : ∀ row, labelOf (otherEdit row) = labelOf row) (different : label ≠ other)
    (present : label ∈ rows.map labelOf) :
    editRow labelOf blank other otherEdit (editRow labelOf blank label edit rows) =
      editRow labelOf blank label edit (editRow labelOf blank other otherEdit rows) := by
  induction rows with
  | nil => cases present
  | cons row rows inductionHypothesis =>
      by_cases first : labelOf row = label
      · simp [editRow, first, kept, different]
      · by_cases second : labelOf row = other
        · simp [editRow, second, otherKept, different.symm]
        · have later : label ∈ rows.map labelOf := by
            simpa [Ne.symm first] using present
          simp only [editRow, if_neg first, if_neg second, inductionHypothesis later]

end FacetedSearch
