import FacetedSearch.Interchange
import FacetedSearch.Proofs.Selection
import Mathlib.Data.List.Induction

/-!
# What a bulk replacement leaves

The lists are added to an empty selection, one after the other, and a list without values is passed
over.  A field that comes again keeps its place and gets the new list.
-/

namespace FacetedSearch

namespace Selection

variable {selection : Selection} {field : String}

@[simp]
theorem wellFormed_replaceAll (selection : Selection) (pairs : List (String × List String)) :
    (selection.replaceAll pairs).WellFormed :=
  wellFormed_ofPairs pairs

theorem wellFormed_of_ofDocument? {document : Json.Document}
    (read : ofDocument? document = some selection) : selection.WellFormed := by
  obtain ⟨table, -, rfl⟩ := Option.map_eq_some_iff.mp read
  exact wellFormed_ofTable table

/-- The selections that the operations make, in any order and number. -/
inductive Made : Selection → Prop where
  | empty : Made .empty
  | toggle {before : Selection} (field value : String) :
      Made before → Made (before.toggle field value)
  | replaceAll {before : Selection} (pairs : List (String × List String)) :
      Made before → Made (before.replaceAll pairs)
  | ofTable (table : FacetLists) : Made (ofTable table)
  | ofDocument {document : Json.Document} {read : Selection} :
      ofDocument? document = some read → Made read

theorem made_iff_wellFormed : Made selection ↔ selection.WellFormed := by
  constructor
  · intro made
    induction made with
    | empty => exact wellFormed_empty
    | toggle field value _ inductionHypothesis => exact inductionHypothesis.toggle field value
    | replaceAll pairs _ _ => exact wellFormed_replaceAll _ pairs
    | ofTable table => exact wellFormed_ofTable table
    | ofDocument read => exact wellFormed_of_ofDocument? read
  · intro wellFormed
    rw [← wellFormed.ofTable_fields]
    exact .ofTable selection.fields

/-- The pairs of a list that come with a value. -/
def filled (pairs : List (String × List String)) : List (String × List String) :=
  pairs.filter fun pair => pair.2 ≠ []

@[simp]
theorem filled_append_singleton (pairs : List (String × List String))
    (pair : String × List String) :
    filled (pairs ++ [pair]) = if pair.2 = [] then filled pairs else filled pairs ++ [pair] := by
  unfold filled
  rw [List.filter_append]
  split
  next unfilled => simp [unfilled]
  next nonempty => simp [nonempty]

theorem ofPairs_append_singleton (pairs : List (String × List String))
    (pair : String × List String) :
    ofPairs (pairs ++ [pair]) =
      if pair.2 = [] then ofPairs pairs
      else ⟨(ofPairs pairs).fields.set pair.1 pair.2.eraseDups⟩ := by
  unfold ofPairs
  rw [List.foldl_concat, insertField]
  simp only [List.isEmpty_iff]
  split <;> rfl

/-- The fields come in the order of their first lists with values. -/
theorem keys_ofPairs (pairs : List (String × List String)) :
    (ofPairs pairs).fields.keys = ((filled pairs).map (·.1)).eraseDups := by
  induction pairs using List.reverseRecOn with
  | nil => rfl
  | append_singleton pairs pair inductionHypothesis =>
      rw [ofPairs_append_singleton, filled_append_singleton]
      split
      next => exact inductionHypothesis
      next =>
        rw [List.map_append, List.map_singleton, eraseDups_append_singleton, Table.keys_set,
          inductionHypothesis]
        simp only [List.mem_eraseDups]

/-- The values of a field are those of its last list with values. -/
theorem values?_ofPairs (pairs : List (String × List String)) (field : String) :
    (ofPairs pairs).values? field =
      (((filled pairs).filter fun pair => pair.1 = field).getLast?).map (·.2.eraseDups) := by
  induction pairs using List.reverseRecOn with
  | nil => rfl
  | append_singleton pairs pair inductionHypothesis =>
      rw [ofPairs_append_singleton, filled_append_singleton]
      split
      next => exact inductionHypothesis
      next =>
        rw [values?, Table.get?_set, List.filter_append]
        by_cases same : pair.1 = field
        · simp [same]
        · rw [if_neg (Ne.symm same), List.filter_singleton, decide_eq_false same, cond_false,
            List.append_nil]
          exact inductionHypothesis

/-- What a bulk replacement leaves, whatever was selected before: the fields that come with a value
at least once, in the order in which they first do, each with its last list of values, less what is
repeated.  The lists of a selection itself, in their order, give this selection. -/
theorem replaceAll_keeps_last_lists (previous : Selection) (pairs : List (String × List String)) :
    let after := previous.replaceAll pairs
    (∀ other : Selection, other.replaceAll pairs = after) ∧
    (∀ field, field ∈ after.fields.keys ↔ ∃ values, (field, values) ∈ pairs ∧ values ≠ []) ∧
    (∀ field, after.values? field =
      (((filled pairs).filter fun pair => pair.1 = field).getLast?).map (·.2.eraseDups)) ∧
    after.fields.keys = ((filled pairs).map (·.1)).eraseDups ∧
    ∀ selection : Selection, selection.WellFormed →
      previous.replaceAll selection.fields.entries = selection ∧
        ofTable selection.fields = selection := by
  intro after
  have keys : after.fields.keys = ((filled pairs).map (·.1)).eraseDups := keys_ofPairs pairs
  refine ⟨fun _ => rfl, fun field => ?_, values?_ofPairs pairs, keys, ?_⟩
  · rw [keys, List.mem_eraseDups, List.mem_map]
    constructor
    · rintro ⟨⟨_, values⟩, membership, rfl⟩
      obtain ⟨given, nonempty⟩ := List.mem_filter.mp membership
      exact ⟨values, given, of_decide_eq_true nonempty⟩
    · rintro ⟨values, given, nonempty⟩
      exact ⟨(field, values), List.mem_filter.mpr ⟨given, decide_eq_true nonempty⟩, rfl⟩
  · intro selection wellFormed
    exact ⟨wellFormed.ofTable_fields, wellFormed.ofTable_fields⟩

/-- Lists of which two are for one field, two are empty and one repeats a value. -/
def repeatedPairs : List (String × List String) :=
  [("situacao_s", []), ("tributo_act_s", ["IRPJ"]), ("situacao_s", ["Aberto"]),
    ("tributo_act_s", ["PIS", "CSLL", "PIS"]), ("situacao_s", [])]

theorem replaceAll_keeps_last_lists_repeatedPairs :
    let previous := empty.toggle "unidade_origem_s" "DRJ"
    let after := previous.replaceAll repeatedPairs
    after.fields.keys = ["tributo_act_s", "situacao_s"] ∧
      after.values? "tributo_act_s" = some ["PIS", "CSLL"] ∧
      after.values? "unidade_origem_s" = none ∧
      after.WellFormed ∧ previous.replaceAll after.fields.entries = after := by
  intro previous after
  obtain ⟨-, -, values, keys, again⟩ := replaceAll_keeps_last_lists previous repeatedPairs
  have wellFormed : after.WellFormed := by decide +kernel
  exact ⟨keys.trans (by decide +kernel), (values _).trans (by decide +kernel),
    (values _).trans (by decide +kernel), wellFormed, (again after wellFormed).1⟩

end Selection

end FacetedSearch
