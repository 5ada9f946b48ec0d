import FacetedSearch.Proofs.Selection
import Mathlib.Algebra.Ring.Parity
import Mathlib.Data.List.Induction
import Mathlib.Data.Nat.Find

/-!
# What toggles leave

A toggle puts a value at the end of its field's list, or takes it out and closes the gap; a field
comes with its first value, behind all others, and goes with its last.  So the selection that some
toggles leave is settled by when each value, and each field, was selected last.
-/

namespace FacetedSearch

namespace Selection

variable {selection other : Selection} {field value : String}

/-- The values selected for a field, of which there are none when the field is absent. -/
def listed (selection : Selection) (field : String) : List String :=
  (selection.values? field).getD []

theorem isActive_iff : selection.isActive field value = true ↔ value ∈ selection.listed field :=
  List.contains_iff_mem

theorem WellFormed.listed_eq_nil_iff (wellFormed : selection.WellFormed) :
    selection.listed field = [] ↔ field ∉ selection.fields.keys := by
  unfold listed
  rw [← Table.get?_eq_none_iff]
  cases found : selection.values? field with
  | none => exact iff_of_true rfl found
  | some values =>
      have filled := (wellFormed _ (Table.mem_of_get?_eq_some found)).1
      refine iff_of_false filled ?_
      intro absent
      exact Option.some_ne_none values (found.symm.trans absent)

theorem WellFormed.values?_eq (wellFormed : selection.WellFormed) (field : String) :
    selection.values? field =
      if selection.listed field = [] then none else some (selection.listed field) := by
  split
  next empty => exact Table.get?_eq_none_iff.mpr (wellFormed.listed_eq_nil_iff.mp empty)
  next filled =>
    unfold listed at filled ⊢
    cases found : selection.values? field with
    | none => simp [found] at filled
    | some values => rfl

/-- Well-formed selections with the same fields in the same order, and the same values in the same
order for each, are the same. -/
theorem WellFormed.ext_listed (wellFormed : selection.WellFormed)
    (otherWellFormed : other.WellFormed) (sameFields : selection.fields.keys = other.fields.keys)
    (sameValues : ∀ field, selection.listed field = other.listed field) : selection = other := by
  have same : ∀ field, selection.fields.get? field = other.fields.get? field := by
    intro field
    have values := wellFormed.values?_eq field
    rw [sameValues] at values
    exact values.trans (otherWellFormed.values?_eq field).symm
  exact congrArg Selection.mk (Table.ext_get? sameFields same)

/-! ## One toggle -/

theorem listed_toggle (selection : Selection) (field value other : String) :
    (selection.toggle field value).listed other =
      if other = field then
        if value ∈ selection.listed field then (selection.listed field).erase value
        else selection.listed field ++ [value]
      else selection.listed other := by
  unfold listed
  generalize values : (selection.values? field).getD [] = list
  simp only [toggle, values, List.contains_iff_mem]
  split
  next selected =>
    split
    next emptied =>
      simp only [values?, Table.get?_erase]
      split
      next same => simpa using emptied
      next => rfl
    next =>
      simp only [values?, Table.get?_set]
      split <;> rfl
  next =>
    simp only [values?, Table.get?_set]
    split <;> rfl

/-- A field goes with its only value, and a new one comes last. -/
theorem keys_toggle (selection : Selection) (field value : String) :
    (selection.toggle field value).fields.keys =
      if selection.listed field = [value] then
        selection.fields.keys.filter fun other => other ≠ field
      else if field ∈ selection.fields.keys then selection.fields.keys
      else selection.fields.keys ++ [field] := by
  have present : selection.listed field ≠ [] → field ∈ selection.fields.keys := by
    intro filled
    by_contra absent
    exact filled (congrArg (·.getD []) (Table.get?_eq_none_iff.mpr absent))
  unfold listed at present ⊢
  generalize values : (selection.values? field).getD [] = list at present ⊢
  simp only [toggle, values, List.contains_iff_mem]
  split
  next selected =>
    have there := present (List.ne_nil_of_mem selected)
    have emptied : (list.erase value).isEmpty = true ↔ list = [value] := by
      rw [List.isEmpty_iff, List.erase_eq_nil_iff]
      exact or_iff_right (List.ne_nil_of_mem selected)
    simp only [emptied, there, if_true]
    split
    next => exact Table.keys_erase selection.fields field
    next => exact (Table.keys_set ..).trans (if_pos there)
  next unselected =>
    have several : list ≠ [value] := by
      rintro rfl
      exact unselected List.mem_cons_self
    rw [if_neg several]
    exact Table.keys_set ..

/-- A toggle turns over its own pair and no other. -/
theorem isActive_toggle (wellFormed : selection.WellFormed)
    (field value otherField other : String) :
    (selection.toggle field value).isActive otherField other =
      if otherField = field ∧ other = value then !selection.isActive otherField other
      else selection.isActive otherField other := by
  have distinct : (selection.listed field).Nodup := wellFormed.nodup_values field
  rw [Bool.eq_iff_iff, isActive_iff, listed_toggle]
  by_cases sameField : otherField = field
  · subst sameField
    by_cases selected : value ∈ selection.listed otherField
    · have active := isActive_iff.mpr selected
      by_cases same : other = value
      · simp [same, selected, active, distinct.mem_erase_iff]
      · simp [same, selected, isActive_iff, List.mem_erase_of_ne same]
    · have inactive := Bool.eq_false_iff.mpr (mt isActive_iff.mp selected)
      by_cases same : other = value
      · simp [same, selected, inactive]
      · simp [same, selected, isActive_iff]
  · simp [sameField, isActive_iff]

theorem togglesOn_eq (wellFormed : selection.WellFormed) (field value : String) :
    selection.togglesOn field value =
      (selection.toggle field value).isActive field value := by
  rw [isActive_toggle wellFormed, if_pos ⟨rfl, rfl⟩]
  rfl

theorem WellFormed.mem_keys_iff (wellFormed : selection.WellFormed) :
    field ∈ selection.fields.keys ↔ ∃ value, selection.isActive field value = true := by
  have filled : selection.listed field ≠ [] ↔ field ∈ selection.fields.keys :=
    wellFormed.listed_eq_nil_iff.not_left
  simp only [← filled, isActive_iff]
  exact ⟨List.exists_mem_of_ne_nil _, fun ⟨_, membership⟩ => List.ne_nil_of_mem membership⟩

theorem WellFormed.isEmpty_iff (wellFormed : selection.WellFormed) :
    selection.isEmpty = true ↔ ∀ field value, selection.isActive field value = false := by
  have noKeys : selection.isEmpty = true ↔ selection.fields.keys = [] := by
    rw [isEmpty, List.isEmpty_iff]
    exact List.map_eq_nil_iff.symm
  rw [noKeys, List.eq_nil_iff_forall_not_mem]
  simp [wellFormed.mem_keys_iff]

/-! ## A sequence of toggles -/

/-- What some toggles leave, one after the other, where nothing was selected before. -/
def ofToggles (calls : List (String × String)) : Selection :=
  calls.foldl (fun selection call => selection.toggle call.1 call.2) .empty

/-- The call of a number, counted from one, brings about what did not hold before it. -/
def Brings (calls : List (String × String)) (holds : Selection → Bool) (number : Nat) : Prop :=
  holds (ofToggles (calls.take (number - 1))) = false ∧ holds (ofToggles (calls.take number)) = true

instance (calls : List (String × String)) (holds : Selection → Bool) :
    DecidablePred (Brings calls holds) :=
  fun _ => inferInstanceAs (Decidable (_ ∧ _))

/-- The number of the last call that brings something about, or zero when none does. -/
def lastBrought (calls : List (String × String)) (holds : Selection → Bool) : Nat :=
  Nat.findGreatest (Brings calls holds) calls.length

variable {calls : List (String × String)} {call : String × String}

@[simp]
theorem ofToggles_append_singleton (calls : List (String × String)) (call : String × String) :
    ofToggles (calls ++ [call]) = (ofToggles calls).toggle call.1 call.2 :=
  List.foldl_concat ..

@[simp]
theorem wellFormed_ofToggles (calls : List (String × String)) : (ofToggles calls).WellFormed := by
  induction calls using List.reverseRecOn with
  | nil => exact wellFormed_empty
  | append_singleton calls call inductionHypothesis =>
      rw [ofToggles_append_singleton]
      exact inductionHypothesis.toggle call.1 call.2

theorem isActive_ofToggles (calls : List (String × String)) (field value : String) :
    (ofToggles calls).isActive field value = true ↔ Odd (calls.count (field, value)) := by
  induction calls using List.reverseRecOn with
  | nil => exact iff_of_false Bool.false_ne_true (by simp)
  | append_singleton calls call inductionHypothesis =>
      rw [ofToggles_append_singleton, isActive_toggle (wellFormed_ofToggles calls),
        List.count_append, List.count_singleton]
      by_cases toggled : field = call.1 ∧ value = call.2
      · obtain ⟨rfl, rfl⟩ := toggled
        rw [if_pos ⟨rfl, rfl⟩, if_pos BEq.rfl, Nat.odd_add_one, ← inductionHypothesis]
        simp
      · have other : (call == (field, value)) = false := by
          rw [beq_eq_false_iff_ne]
          rintro rfl
          exact toggled ⟨rfl, rfl⟩
        rw [if_neg toggled, inductionHypothesis, other]
        rfl

theorem lastBrought_le_length (calls : List (String × String)) (holds : Selection → Bool) :
    lastBrought calls holds ≤ calls.length :=
  Nat.findGreatest_le _

theorem lastBrought_append_singleton (calls : List (String × String)) (call : String × String)
    (holds : Selection → Bool) :
    lastBrought (calls ++ [call]) holds =
      if holds (ofToggles calls) = false ∧ holds (ofToggles (calls ++ [call])) = true then
        calls.length + 1
      else lastBrought calls holds := by
  have before : ∀ number ≤ calls.length,
      (calls ++ [call]).take number = calls.take number := fun number within =>
    List.take_append_of_le_length within
  have earlier : ∀ number ≤ calls.length,
      Nat.findGreatest (Brings (calls ++ [call]) holds) number =
        Nat.findGreatest (Brings calls holds) number := by
    intro number within
    induction number with
    | zero => rfl
    | succ number inductionHypothesis =>
        rw [Nat.findGreatest_succ, Nat.findGreatest_succ, inductionHypothesis (by omega)]
        simp only [Brings, before _ within, Nat.add_sub_cancel, before number (by omega)]
  have last : Brings (calls ++ [call]) holds (calls.length + 1) ↔
      holds (ofToggles calls) = false ∧ holds (ofToggles (calls ++ [call])) = true := by
    have whole : (calls ++ [call]).take (calls.length + 1) = calls ++ [call] :=
      List.take_of_length_le (by simp)
    rw [Brings, whole, Nat.add_sub_cancel, List.take_left]
  unfold lastBrought
  rw [List.length_append, List.length_singleton, Nat.findGreatest_succ, earlier _ (Nat.le_refl _)]
  simp only [last]

theorem lastBrought_append_singleton_of_holds {holds : Selection → Bool}
    (before : holds (ofToggles calls) = true) (call : String × String) :
    lastBrought (calls ++ [call]) holds = lastBrought calls holds := by
  rw [lastBrought_append_singleton, before]
  exact if_neg fun brought => Bool.noConfusion brought.1

/-- The members of a list come in the order in which something was last brought about for each. -/
def InOrder {Member : Type} (calls : List (String × String)) (holds : Member → Selection → Bool)
    (members : List Member) : Prop :=
  members.Pairwise fun first second =>
    lastBrought calls (holds first) < lastBrought calls (holds second)

namespace InOrder

variable {Member : Type} {holds : Member → Selection → Bool} {members kept : List Member}

/-- Nothing is brought about for members that stay, so they keep their order. -/
theorem keep (inOrder : InOrder calls holds members) (staying : kept.Sublist members)
    (before : ∀ member ∈ members, holds member (ofToggles calls) = true) :
    InOrder (calls ++ [call]) holds kept := by
  refine (inOrder.sublist staying).imp_of_mem ?_
  intro first second firstKept secondKept earlier
  rw [lastBrought_append_singleton_of_holds (before first (staying.subset firstKept)),
    lastBrought_append_singleton_of_holds (before second (staying.subset secondKept))]
  exact earlier

/-- A member for which the last call brings it about comes behind the others. -/
theorem grow {newcomer : Member} (inOrder : InOrder calls holds members)
    (before : ∀ member ∈ members, holds member (ofToggles calls) = true)
    (absent : holds newcomer (ofToggles calls) = false)
    (brought : holds newcomer (ofToggles (calls ++ [call])) = true) :
    InOrder (calls ++ [call]) holds (members ++ [newcomer]) := by
  have last : lastBrought (calls ++ [call]) (holds newcomer) = calls.length + 1 :=
    (lastBrought_append_singleton ..).trans (if_pos ⟨absent, brought⟩)
  refine List.pairwise_append.mpr
    ⟨inOrder.keep (List.Sublist.refl _) before, List.pairwise_singleton .., ?_⟩
  intro member membership other isNewcomer
  rw [List.mem_singleton.mp isNewcomer, last,
    lastBrought_append_singleton_of_holds (before member membership)]
  exact Nat.lt_succ_of_le (lastBrought_le_length calls _)

end InOrder

/-- The values of a field come in the order in which each was last selected. -/
theorem inOrder_listed (calls : List (String × String)) (field : String) :
    InOrder calls (fun value selection => selection.isActive field value)
      ((ofToggles calls).listed field) := by
  induction calls using List.reverseRecOn with
  | nil => exact List.Pairwise.nil
  | append_singleton calls call inductionHypothesis =>
      have before : ∀ value ∈ (ofToggles calls).listed field,
          (ofToggles calls).isActive field value = true := fun value => isActive_iff.mpr
      rw [ofToggles_append_singleton, listed_toggle]
      split
      next same =>
        subst same
        split
        next => exact inductionHypothesis.keep List.erase_sublist before
        next unselected =>
          have absent := Bool.eq_false_iff.mpr (mt isActive_iff.mp unselected)
          apply inductionHypothesis.grow before absent
          rw [ofToggles_append_singleton, ← togglesOn_eq (wellFormed_ofToggles calls), togglesOn,
            absent]
          rfl
      next => exact inductionHypothesis.keep (List.Sublist.refl _) before

/-- Whether some value of a field is selected. -/
def hasValue (field : String) (selection : Selection) : Bool :=
  !(selection.listed field).isEmpty

theorem WellFormed.hasValue_iff (wellFormed : selection.WellFormed) :
    selection.hasValue field = true ↔ field ∈ selection.fields.keys := by
  rw [hasValue, Bool.not_eq_true', List.isEmpty_eq_false_iff, ne_eq, wellFormed.listed_eq_nil_iff,
    not_not]

/-- The fields come in the order in which each last went from no selected value to one. -/
theorem inOrder_keys (calls : List (String × String)) :
    InOrder calls hasValue (ofToggles calls).fields.keys := by
  induction calls using List.reverseRecOn with
  | nil => exact List.Pairwise.nil
  | append_singleton calls call inductionHypothesis =>
      have wellFormed := wellFormed_ofToggles calls
      have before : ∀ field ∈ (ofToggles calls).fields.keys,
          (ofToggles calls).hasValue field = true := fun field => wellFormed.hasValue_iff.mpr
      have keys := (ofToggles calls).keys_toggle call.1 call.2
      rw [ofToggles_append_singleton, keys]
      split
      next => exact inductionHypothesis.keep List.filter_sublist before
      next several =>
        split
        next => exact inductionHypothesis.keep (List.Sublist.refl _) before
        next fresh =>
          apply inductionHypothesis.grow before
            (Bool.eq_false_iff.mpr (mt wellFormed.hasValue_iff.mp fresh))
          apply (wellFormed_ofToggles (calls ++ [call])).hasValue_iff.mpr
          rw [ofToggles_append_singleton, keys, if_neg several, if_neg fresh]
          exact List.mem_append_right _ List.mem_cons_self

/-- What some toggles leave when nothing was selected before.  A pair is selected exactly when it
was toggled an odd number of times, and each toggle tells whether its pair is selected behind it.
The values of a field come in the order in which each was last selected, the fields in the order in
which each last got its first value, and a field without values is absent. -/
theorem isActive_iff_odd_toggles (calls : List (String × String)) :
    (∀ field value,
      (ofToggles calls).isActive field value = true ↔ Odd (calls.count (field, value))) ∧
    (∀ before call after, calls = before ++ call :: after →
      (ofToggles before).togglesOn call.1 call.2 =
        (ofToggles (before ++ [call])).isActive call.1 call.2) ∧
    (∀ field, ((ofToggles calls).listed field).Nodup ∧
      (∀ value, value ∈ (ofToggles calls).listed field ↔
        (ofToggles calls).isActive field value = true) ∧
      InOrder calls (fun value selection => selection.isActive field value)
        ((ofToggles calls).listed field)) ∧
    (ofToggles calls).fields.keys.Nodup ∧
    InOrder calls hasValue (ofToggles calls).fields.keys ∧
    (∀ field, field ∈ (ofToggles calls).fields.keys ↔
      ∃ value, (ofToggles calls).isActive field value = true) ∧
    ((ofToggles calls).isEmpty = true ↔ ∀ field value, Even (calls.count (field, value))) := by
  have wellFormed := wellFormed_ofToggles calls
  refine ⟨isActive_ofToggles calls, ?_, ?_, (ofToggles calls).fields.nodup_keys, inOrder_keys calls,
    fun field => wellFormed.mem_keys_iff, ?_⟩
  · intro before call after split
    rw [ofToggles_append_singleton]
    exact togglesOn_eq (wellFormed_ofToggles before) call.1 call.2
  · intro field
    exact ⟨wellFormed.nodup_values field, fun value => isActive_iff.symm,
      inOrder_listed calls field⟩
  · rw [wellFormed.isEmpty_iff]
    refine forall_congr' fun field => forall_congr' fun value => ?_
    rw [← Nat.not_odd_iff_even, ← isActive_ofToggles, Bool.not_eq_true]

/-- Toggles by which one field loses its only value and gets it back, and another its first. -/
def returningToggles : List (String × String) :=
  [("situacao_s", "Aberto"), ("tributo_act_s", "IRPJ"), ("tributo_act_s", "CSLL"),
    ("tributo_act_s", "IRPJ"), ("tributo_act_s", "IRPJ"), ("situacao_s", "Aberto"),
    ("situacao_s", "Aberto")]

theorem isActive_iff_odd_toggles_returningToggles :
    let selection := ofToggles returningToggles
    selection.fields.entries =
        [("tributo_act_s", ["CSLL", "IRPJ"]), ("situacao_s", ["Aberto"])] ∧
      returningToggles =
        returningToggles.take 3 ++ ("tributo_act_s", "IRPJ") :: returningToggles.drop 4 ∧
      (ofToggles (returningToggles.take 3)).togglesOn "tributo_act_s" "IRPJ" =
        (ofToggles (returningToggles.take 3 ++ [("tributo_act_s", "IRPJ")])).isActive
          "tributo_act_s" "IRPJ" ∧
      InOrder returningToggles hasValue ["tributo_act_s", "situacao_s"] ∧
      lastBrought returningToggles (hasValue "tributo_act_s") = 2 ∧
      lastBrought returningToggles (hasValue "situacao_s") = 7 ∧
      (selection.isActive "tributo_act_s" "IRPJ" = true ∧
        Odd (returningToggles.count ("tributo_act_s", "IRPJ"))) := by
  intro selection
  obtain ⟨odd, told, -, -, ordered, -, -⟩ := isActive_iff_odd_toggles returningToggles
  have entries : selection.fields.entries =
      [("tributo_act_s", ["CSLL", "IRPJ"]), ("situacao_s", ["Aberto"])] := by decide +kernel
  have active : selection.isActive "tributo_act_s" "IRPJ" = true := by decide +kernel
  refine ⟨entries, rfl, told _ ("tributo_act_s", "IRPJ") _ rfl, ?_, by decide +kernel,
    by decide +kernel, active, (odd _ _).mp active⟩
  rw [Table.keys, entries] at ordered
  exact ordered

end Selection

end FacetedSearch
