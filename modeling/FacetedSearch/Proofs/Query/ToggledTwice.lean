import FacetedSearch.Proofs.Query.FacetGroups
import FacetedSearch.Proofs.Selection.Toggling
import Mathlib.Data.List.Basic

/-!
# A toggle and the same toggle again

Two toggles of one pair leave the same pairs selected, but not always in the same order: a value
that is let go of and selected again comes last in its field, and a field that loses its only value
and gets it back comes last of all.  The order of fields and values is the order of the expression,
so this shows in the expression, and only this.
-/

namespace FacetedSearch

namespace Selection

open Query

variable {selection : Selection} {field value : String}

/-! ## The order after two toggles -/

theorem erase_append_singleton_eq_iff {names : List String} {name : String}
    (distinct : names.Nodup) :
    names.erase name ++ [name] = names ↔ names.getLast? = some name := by
  constructor
  · intro same
    rw [← same, List.getLast?_concat]
  · intro last
    obtain ⟨earlier, rfl⟩ := List.getLast?_eq_some_iff.mp last
    have fresh : name ∉ earlier := fun again =>
      (List.nodup_append.mp distinct).2.2 name again name List.mem_cons_self rfl
    rw [List.erase_append_right _ fresh, List.erase_cons_head, List.append_nil]

theorem listed_toggle_toggle (wellFormed : selection.WellFormed) (field value other : String) :
    ((selection.toggle field value).toggle field value).listed other =
      if other = field ∧ value ∈ selection.listed field then
        (selection.listed field).erase value ++ [value]
      else selection.listed other := by
  have distinct : (selection.listed field).Nodup := wellFormed.nodup_values field
  simp only [listed_toggle, if_true]
  by_cases same : other = field
  · subst same
    by_cases selected : value ∈ selection.listed other
    · simp [selected, distinct.not_mem_erase]
    · simp [selected, List.erase_append_right]
  · simp [same]

theorem keys_toggle_toggle (wellFormed : selection.WellFormed) (field value : String) :
    ((selection.toggle field value).toggle field value).fields.keys =
      if selection.listed field = [value] then selection.fields.keys.erase field ++ [field]
      else selection.fields.keys := by
  have distinct : (selection.listed field).Nodup := wellFormed.nodup_values field
  have absent : selection.listed field = [] ↔ field ∉ selection.fields.keys :=
    wellFormed.listed_eq_nil_iff
  rw [keys_toggle (selection.toggle field value), keys_toggle selection, listed_toggle, if_pos rfl]
  by_cases only : selection.listed field = [value]
  · have others : (fun other => !decide (other = field)) = (· != field) := rfl
    simp [only, selection.fields.nodup_keys.erase_eq_filter, others]
  · simp only [if_neg only]
    by_cases there : field ∈ selection.fields.keys
    · have filled : selection.listed field ≠ [] := mt absent.mp (not_not_intro there)
      rw [if_pos there, if_pos there, if_neg]
      split
      next selected =>
        intro left
        exact distinct.not_mem_erase (left ▸ List.mem_cons_self)
      next => simpa using filled
    · have fresh : ∀ other ∈ selection.fields.keys, other ≠ field := by
        rintro other membership rfl
        exact there membership
      rw [absent.mpr there, if_neg there]
      simpa using fresh

/-- A selected value is in the place that it would be put to: behind the other values of its field
or, when there are none, in the last field. -/
def InLastPlace (selection : Selection) (field value : String) : Prop :=
  if selection.listed field = [value] then selection.fields.keys.getLast? = some field
  else (selection.listed field).getLast? = some value

instance (selection : Selection) (field value : String) :
    Decidable (selection.InLastPlace field value) :=
  inferInstanceAs (Decidable (ite ..))

theorem toggle_toggle_of_inactive (wellFormed : selection.WellFormed)
    (inactive : selection.isActive field value = false) :
    (selection.toggle field value).toggle field value = selection := by
  have unselected : value ∉ selection.listed field :=
    mt isActive_iff.mpr (Bool.eq_false_iff.mp inactive)
  have twice := (wellFormed.toggle field value).toggle field value
  refine twice.ext_listed wellFormed ?_ ?_
  · rw [keys_toggle_toggle wellFormed, if_neg]
    intro only
    exact unselected (only ▸ List.mem_cons_self)
  · intro other
    rw [listed_toggle_toggle wellFormed, if_neg fun both => unselected both.2]

/-- Of a selected value, two toggles leave everything as it is exactly when it was in last place. -/
theorem toggle_toggle_eq_iff (wellFormed : selection.WellFormed)
    (active : selection.isActive field value = true) :
    (selection.toggle field value).toggle field value = selection ↔
      selection.InLastPlace field value := by
  have selected := isActive_iff.mp active
  have distinct : (selection.listed field).Nodup := wellFormed.nodup_values field
  have twice := (wellFormed.toggle field value).toggle field value
  have parts : (selection.toggle field value).toggle field value = selection ↔
      ((selection.toggle field value).toggle field value).fields.keys = selection.fields.keys ∧
        ∀ other, ((selection.toggle field value).toggle field value).listed other =
          selection.listed other := by
    constructor
    · intro same
      rw [same]
      exact ⟨rfl, fun _ => rfl⟩
    · exact fun same => twice.ext_listed wellFormed same.1 same.2
  have values : (∀ other, ((selection.toggle field value).toggle field value).listed other =
      selection.listed other) ↔ (selection.listed field).getLast? = some value := by
    rw [← erase_append_singleton_eq_iff distinct]
    constructor
    · intro same
      have own := same field
      rwa [listed_toggle_toggle wellFormed, if_pos ⟨rfl, selected⟩] at own
    · intro same other
      rw [listed_toggle_toggle wellFormed]
      split
      next both => rw [both.1, same]
      next => rfl
  rw [parts, values, keys_toggle_toggle wellFormed, InLastPlace]
  split
  next only => simp [only, erase_append_singleton_eq_iff selection.fields.nodup_keys]
  next => exact and_iff_right rfl

theorem isActive_toggle_toggle (wellFormed : selection.WellFormed) (field value : String)
    (otherField other : String) :
    ((selection.toggle field value).toggle field value).isActive otherField other =
      selection.isActive otherField other := by
  have distinct : (selection.listed field).Nodup := wellFormed.nodup_values field
  rw [Bool.eq_iff_iff, isActive_iff, isActive_iff, listed_toggle_toggle wellFormed]
  split
  next both =>
    obtain ⟨rfl, selected⟩ := both
    rw [List.mem_append, List.mem_singleton, distinct.mem_erase_iff]
    by_cases same : other = value
    · simpa [same] using selected
    · simp [same]
  next => rfl

theorem values?_toggle_toggle (wellFormed : selection.WellFormed)
    (active : selection.isActive field value = true) (other : String) :
    ((selection.toggle field value).toggle field value).values? other =
      if other = field then some ((selection.listed field).erase value ++ [value])
      else selection.values? other := by
  have twice := (wellFormed.toggle field value).toggle field value
  rw [twice.values?_eq, listed_toggle_toggle wellFormed]
  by_cases same : other = field
  · simp [same, isActive_iff.mp active]
  · simp only [same, false_and, if_false, wellFormed.values?_eq other]

/-- Two toggles of a selected value leave the groups as they are exactly when it was in last
place. -/
theorem facetGroups?_toggle_toggle_iff (wellFormed : selection.WellFormed)
    (active : selection.isActive field value = true)
    (named : ∀ name ∈ selection.fields.keys, IsName name) :
    facetGroups? ((selection.toggle field value).toggle field value) = facetGroups? selection ↔
      selection.InLastPlace field value := by
  have twice := (wellFormed.toggle field value).toggle field value
  have there : field ∈ selection.fields.keys := wellFormed.mem_keys_iff.mpr ⟨value, active⟩
  have twiceNamed : ∀ name ∈ ((selection.toggle field value).toggle field value).fields.keys,
      IsName name := by
    intro name membership
    rw [keys_toggle_toggle wellFormed] at membership
    split at membership
    next =>
      rcases List.mem_append.mp membership with kept | last
      · exact named name (List.mem_of_mem_erase kept)
      · exact named name (List.mem_singleton.mp last ▸ there)
    next => exact named name membership
  rw [← toggle_toggle_eq_iff wellFormed active]
  constructor
  · exact facetGroups?_inj twice wellFormed twiceNamed named
  · exact congrArg facetGroups?

/-- What a toggle and the same toggle again leave: the same pairs, in the order of before when the
value was not selected.  A value that was selected is now the last of its field or, if it is the
only one, its field is the last, and nothing else is moved; so the groups, and the expressions, are
those of before exactly when it was in that place. -/
theorem toggle_toggle_only_reorders (selection : Selection) (wellFormed : selection.WellFormed)
    (field value : String) :
    let twice := (selection.toggle field value).toggle field value
    (∀ otherField other,
      twice.isActive otherField other = selection.isActive otherField other) ∧
    (selection.isActive field value = false →
      twice = selection ∧ facetGroups? twice = facetGroups? selection) ∧
    (selection.isActive field value = true →
      (selection.values? field ≠ some [value] →
        twice.fields.keys = selection.fields.keys ∧
          ∀ other, twice.values? other =
            if other = field then some ((selection.listed field).erase value ++ [value])
            else selection.values? other) ∧
      (selection.values? field = some [value] →
        twice.fields.keys = selection.fields.keys.erase field ++ [field] ∧
          ∀ other, twice.values? other = selection.values? other) ∧
      ((∀ name ∈ selection.fields.keys, IsName name) →
        (facetGroups? twice = facetGroups? selection ↔ selection.InLastPlace field value) ∧
        ∀ freeText filters,
          compile ⟨freeText, filters, twice⟩ = compile ⟨freeText, filters, selection⟩ ↔
            selection.InLastPlace field value)) := by
  intro twice
  refine ⟨isActive_toggle_toggle wellFormed field value, ?_, ?_⟩
  · intro inactive
    have same := toggle_toggle_of_inactive wellFormed inactive
    exact ⟨same, congrArg facetGroups? same⟩
  · intro active
    have selected := isActive_iff.mp active
    have filled : selection.values? field = some (selection.listed field) := by
      rw [wellFormed.values?_eq, if_neg (List.ne_nil_of_mem selected)]
    have keys := keys_toggle_toggle wellFormed field value
    rw [filled, ne_eq, Option.some.injEq]
    refine ⟨fun several => ⟨keys.trans (if_neg several), fun other => ?_⟩,
      fun only => ⟨keys.trans (if_pos only), fun other => ?_⟩, fun named => ?_⟩
    · exact values?_toggle_toggle wellFormed active other
    · rw [values?_toggle_toggle wellFormed active]
      split
      next same => rw [same, filled, only, List.erase_cons_head, List.nil_append]
      next => rfl
    · have groups := facetGroups?_toggle_toggle_iff wellFormed active named
      refine ⟨groups, fun freeText filters => ?_⟩
      constructor
      · exact fun same => groups.mp (facetGroups?_eq_of_compile_eq same)
      · intro last
        rw [show twice = selection from (toggle_toggle_eq_iff wellFormed active).mpr last]

/-- Two fields, the first with two values and the second with one. -/
def orderedSelection : Selection :=
  ⟨⟨[("tributo_act_s", ["IRPJ", "CSLL"]), ("situacao_s", ["Aberto"])], by decide⟩⟩

/-- Of the first field, toggling its first value twice puts it behind the second, and toggling the
second twice changes nothing; nor does toggling the only value of the last field. -/
theorem toggle_toggle_only_reorders_orderedSelection :
    let moved := (orderedSelection.toggle "tributo_act_s" "IRPJ").toggle "tributo_act_s" "IRPJ"
    let kept := (orderedSelection.toggle "situacao_s" "Aberto").toggle "situacao_s" "Aberto"
    orderedSelection.WellFormed ∧
      (orderedSelection.isActive "tributo_act_s" "PIS" = false ∧
        (orderedSelection.toggle "tributo_act_s" "PIS").toggle "tributo_act_s" "PIS" =
          orderedSelection) ∧
      (orderedSelection.isActive "tributo_act_s" "IRPJ" = true ∧
        moved.values? "tributo_act_s" = some ["CSLL", "IRPJ"] ∧
        moved.fields.keys = ["tributo_act_s", "situacao_s"] ∧
        facetGroups? moved ≠ facetGroups? orderedSelection) ∧
      (orderedSelection.isActive "situacao_s" "Aberto" = true ∧
        orderedSelection.values? "situacao_s" = some ["Aberto"] ∧
        kept.fields.keys = ["tributo_act_s", "situacao_s"] ∧
        compile ⟨"*:*", .empty, kept⟩ = compile ⟨"*:*", .empty, orderedSelection⟩) := by
  intro moved kept
  have wellFormed : orderedSelection.WellFormed := by decide
  have named : ∀ name ∈ orderedSelection.fields.keys, IsName name := by decide +kernel
  have unselected : orderedSelection.isActive "tributo_act_s" "PIS" = false := by decide
  have first : orderedSelection.isActive "tributo_act_s" "IRPJ" = true := by decide
  have only : orderedSelection.isActive "situacao_s" "Aberto" = true := by decide
  have several : orderedSelection.values? "tributo_act_s" ≠ some ["IRPJ"] := by decide
  have single : orderedSelection.values? "situacao_s" = some ["Aberto"] := by decide
  obtain ⟨movedKeys, movedValues⟩ :=
    ((toggle_toggle_only_reorders orderedSelection wellFormed "tributo_act_s" "IRPJ").2.2 first).1
      several
  have movedGroups :=
    ((toggle_toggle_only_reorders orderedSelection wellFormed "tributo_act_s" "IRPJ").2.2 first).2.2
      named
  have keptSettled :=
    (toggle_toggle_only_reorders orderedSelection wellFormed "situacao_s" "Aberto").2.2 only
  refine ⟨wellFormed, ⟨unselected, ?_⟩, ⟨first, ?_, movedKeys, ?_⟩, only, single,
    (keptSettled.2.1 single).1, ?_⟩
  · exact ((toggle_toggle_only_reorders orderedSelection wellFormed _ _).2.1 unselected).1
  · exact (movedValues "tributo_act_s").trans (by decide)
  · exact mt movedGroups.1.mp (by decide)
  · exact ((keptSettled.2.2 named).2 "*:*" .empty).mpr (by decide)

end Selection

end FacetedSearch
