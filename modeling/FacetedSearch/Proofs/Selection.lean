import FacetedSearch.Proofs.Table
import FacetedSearch.Selection
import Mathlib.Data.List.Basic

/-!
Every selection that the operations make is well-formed.

A toggle works on one field: it puts a value at the end of the field's list, or takes one out, and
takes out the field with its last value.  A bulk replacement starts from nothing and adds one field
after the other.
-/

namespace FacetedSearch

namespace Selection

variable {selection : Selection} {field value : String} {values : List String}

@[simp]
theorem wellFormed_empty : Selection.empty.WellFormed :=
  fun _ membership => nomatch membership

theorem WellFormed.nodup_values (wellFormed : selection.WellFormed) (field : String) :
    ((selection.values? field).getD []).Nodup := by
  cases found : selection.values? field with
  | none => exact List.nodup_nil
  | some values => exact (wellFormed _ (Table.mem_of_get?_eq_some found)).2

theorem WellFormed.set (wellFormed : selection.WellFormed) (field : String)
    (filled : values ≠ []) (distinct : values.Nodup) :
    WellFormed ⟨selection.fields.set field values⟩ := by
  intro entry membership
  rcases Table.mem_entries_set membership with rfl | old
  · exact ⟨filled, distinct⟩
  · exact wellFormed entry old

theorem WellFormed.erase (wellFormed : selection.WellFormed) (field : String) :
    WellFormed ⟨selection.fields.erase field⟩ :=
  fun entry membership => wellFormed entry (List.mem_filter.mp membership).1

theorem WellFormed.toggle (wellFormed : selection.WellFormed) (field value : String) :
    (selection.toggle field value).WellFormed := by
  have distinct := wellFormed.nodup_values field
  simp only [Selection.toggle]
  split
  next selected =>
    split
    next => exact wellFormed.erase field
    next remaining =>
      apply wellFormed.set field
      · exact mt List.isEmpty_iff.mpr remaining
      · exact distinct.erase value
  next unselected =>
    have fresh : value ∉ (selection.values? field).getD [] :=
      fun selected => unselected (List.contains_iff_mem.mpr selected)
    apply wellFormed.set field
    · exact List.append_ne_nil_of_right_ne_nil _ (List.cons_ne_nil value [])
    · exact nodup_append_singleton.mpr ⟨fresh, distinct⟩

theorem WellFormed.insertField {fields : FacetLists} (wellFormed : WellFormed ⟨fields⟩)
    (pair : String × List String) : WellFormed ⟨Selection.insertField fields pair⟩ := by
  unfold Selection.insertField
  split
  next => exact wellFormed
  next filled =>
    apply wellFormed.set pair.1
    · obtain ⟨value, listed⟩ := List.exists_mem_of_ne_nil _ (mt List.isEmpty_iff.mpr filled)
      exact List.ne_nil_of_mem (List.mem_eraseDups.mpr listed)
    · exact nodup_eraseDups pair.2

@[simp]
theorem wellFormed_ofPairs (pairs : List (String × List String)) :
    (ofPairs pairs).WellFormed := by
  have adding : ∀ fields : FacetLists, WellFormed ⟨fields⟩ →
      WellFormed ⟨pairs.foldl Selection.insertField fields⟩ := by
    induction pairs with
    | nil => exact fun _ wellFormed => wellFormed
    | cons pair rest inductionHypothesis =>
        intro fields wellFormed
        exact inductionHypothesis _ (wellFormed.insertField pair)
  exact adding .empty wellFormed_empty

@[simp]
theorem wellFormed_ofTable (table : FacetLists) : (ofTable table).WellFormed :=
  wellFormed_ofPairs table.entries

/-- A bulk replacement by the lists of a well-formed selection gives this selection. -/
theorem WellFormed.ofTable_fields (wellFormed : selection.WellFormed) :
    ofTable selection.fields = selection := by
  have plain : ∀ fields : FacetLists, ∀ entry ∈ selection.fields.entries,
      Selection.insertField fields entry = fields.set entry.1 entry.2 := by
    intro fields entry membership
    obtain ⟨nonempty, valuesDistinct⟩ := wellFormed entry membership
    rw [Selection.insertField, if_neg (mt List.isEmpty_iff.mp nonempty),
      eraseDups_of_nodup valuesDistinct]
  unfold ofTable ofPairs
  rw [List.foldl_ext _ _ _ plain]
  exact congrArg Selection.mk (Table.ofList_entries selection.fields)

end Selection

end FacetedSearch
