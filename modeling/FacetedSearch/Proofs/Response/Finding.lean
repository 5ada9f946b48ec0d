import FacetedSearch.Proofs.Text.Lowercase
import FacetedSearch.Response

/-!
# Finding facet values by a part of their labels

Labels and terms are lower-cased apart from each other, each as a text of its own.  What a label
contains as typed is therefore found, and goes on being found while a term grows, unless a sigma at
an open end of the term takes another form within the label.
-/

namespace FacetedSearch.FacetGroup

open Text

variable {group : FacetGroup} {item : FacetCount} {term : String}

@[simp]
theorem mem_find_iff :
    item ∈ group.find term ↔
      item ∈ group.items ∧ lower term.toList <:+: lower item.label.toList := by
  unfold find
  rw [List.mem_filter, contains_eq_true_iff]

theorem find_sublist (group : FacetGroup) (term : String) :
    (group.find term).Sublist group.items :=
  List.filter_sublist

@[simp]
theorem find_empty (group : FacetGroup) : group.find "" = group.items := by
  unfold find
  apply List.filter_eq_self.mpr
  intro item _
  rw [contains_eq_true_iff]
  exact List.nil_infix

/-- A term is found where it stands in a label, if no letter meets an open end of it there. -/
theorem mem_find_of_eq_append {before after : List Char} (membership : item ∈ group.items)
    (stands : item.label.toList = before ++ (term.toList ++ after))
    (opens : OpensWithSigma term.toList → meetsCased before.reverse = false)
    (closes : ClosesWithSigma term.toList → meetsCased after = false) :
    item ∈ group.find term := by
  have unchanged : lowerBetween before.reverse term.toList after = lower term.toList :=
    lowerBetween_eq_lower opens closes
  rw [mem_find_iff]
  refine ⟨membership, ?_⟩
  rw [stands, lower_eq (before ++ _), lowerBetween_append, lowerBetween_append]
  simp only [List.append_nil, unchanged]
  exact ⟨_, _, List.append_assoc ..⟩

/-- A longer term finds no more, if no letter is added to an open end. -/
theorem find_append_sublist {added : String}
    (closes : ClosesWithSigma term.toList → meetsCased added.toList = false) :
    (group.find (term ++ added)).Sublist (group.find term) := by
  have unchanged : lowerBetween [] term.toList added.toList = lower term.toList :=
    lowerBetween_eq_lower (fun _ => rfl) closes
  have longer : lower term.toList <+: lower (term ++ added).toList := by
    rw [String.toList_append, lower_eq (_ ++ _), lowerBetween_append, List.append_nil, unchanged]
    exact List.prefix_append ..
  unfold find
  apply List.monotone_filter_right
  intro item
  rw [contains_eq_true_iff, contains_eq_true_iff]
  exact longer.isInfix.trans

/-- A group with one value, which is shown as it is. -/
def single (text : String) : FacetGroup :=
  ⟨"", "", [.ofValue text 1]⟩

theorem mem_find_single_iff {text : String} :
    .ofValue text 1 ∈ (single text).find term ↔ lower term.toList <:+: lower text.toList := by
  rw [mem_find_iff]
  simp [single, FacetCount.ofValue]

theorem not_mem_find_of_opens (opens : OpensWithSigma term.toList) :
    .ofValue ("A" ++ term) 1 ∉ (single ("A" ++ term)).find term := by
  rw [mem_find_single_iff, String.toList_append]
  exact not_lower_infix_letter_cons opens

theorem not_mem_find_of_closes (closes : ClosesWithSigma term.toList) :
    .ofValue (term ++ "A") 1 ∉ (single (term ++ "A")).find term := by
  rw [mem_find_single_iff, String.toList_append]
  exact not_lower_infix_append_letter closes

/-- A term with a sigma at an open end misses a label that has a letter there. -/
theorem forall_found_iff (term : String) :
    (∀ group : FacetGroup, ∀ item ∈ group.items, term.toList <:+: item.label.toList →
        item ∈ group.find term) ↔
      ¬OpensWithSigma term.toList ∧ ¬ClosesWithSigma term.toList := by
  constructor
  · intro found
    constructor
    · intro opens
      apply not_mem_find_of_opens opens (found _ _ List.mem_cons_self ?_)
      rw [FacetCount.ofValue, String.toList_append]
      exact (List.suffix_append ..).isInfix
    · intro closes
      apply not_mem_find_of_closes closes (found _ _ List.mem_cons_self ?_)
      rw [FacetCount.ofValue, String.toList_append]
      exact (List.prefix_append ..).isInfix
  · rintro ⟨notOpen, notClosing⟩ group item membership ⟨before, after, stands⟩
    rw [List.append_assoc] at stands
    apply mem_find_of_eq_append membership stands.symm
    · exact fun opens => absurd opens notOpen
    · exact fun closes => absurd closes notClosing

/-- A term that ends in a final sigma finds more when a letter follows. -/
theorem forall_narrowed_iff (term : String) :
    (∀ (group : FacetGroup) (added : String), ∀ item ∈ group.find (term ++ added),
        item ∈ group.find term) ↔
      ¬ClosesWithSigma term.toList := by
  constructor
  · intro narrowed closes
    have whole : .ofValue (term ++ "A") 1 ∈ (single (term ++ "A")).find (term ++ "A") :=
      mem_find_single_iff.mpr List.infix_rfl
    exact not_mem_find_of_closes closes (narrowed _ _ _ whole)
  · intro notClosing group added item found
    exact (find_append_sublist fun closes => absurd closes notClosing).subset found

/-- Finding keeps the order of the group and adds nothing to it, and the empty term finds all.  What
a label contains as typed is found wherever no letter meets an open end of the term, and so is what
a longer term found.  Both hold of all labels exactly for the terms without such an end. -/
theorem find_contained_iff_plain_ends (term : String) :
    (∀ group : FacetGroup,
      (group.find term).Sublist group.items ∧ group.find "" = group.items) ∧
    (∀ group : FacetGroup, ∀ item ∈ group.items, ∀ before after,
      item.label.toList = before ++ (term.toList ++ after) →
      (OpensWithSigma term.toList → meetsCased before.reverse = false) →
      (ClosesWithSigma term.toList → meetsCased after = false) → item ∈ group.find term) ∧
    (∀ (group : FacetGroup) (added : String),
      (ClosesWithSigma term.toList → meetsCased added.toList = false) →
      (group.find (term ++ added)).Sublist (group.find term)) ∧
    ((∀ group : FacetGroup, ∀ item ∈ group.items, term.toList <:+: item.label.toList →
        item ∈ group.find term) ↔
      ¬OpensWithSigma term.toList ∧ ¬ClosesWithSigma term.toList) ∧
    ((∀ (group : FacetGroup) (added : String), ∀ item ∈ group.find (term ++ added),
        item ∈ group.find term) ↔
      ¬ClosesWithSigma term.toList) := by
  refine ⟨fun group => ⟨group.find_sublist term, group.find_empty⟩, ?_, ?_, forall_found_iff term,
    forall_narrowed_iff term⟩
  · intro group item membership before after stands opens closes
    exact mem_find_of_eq_append membership stands opens closes
  · intro group added closes
    exact find_append_sublist closes

/-- Streets in capitals, in which a sigma ends a word or stands within it. -/
def streets : FacetGroup :=
  ⟨"rua_s", "Rua", [.ofValue "Η ΟΔΟΣ 12" 3, .ofValue "ΟΔΟΣΑ" 2, .ofValue "RUA NOVA" 1]⟩

theorem find_contained_iff_plain_ends_streets :
    (.ofValue "Η ΟΔΟΣ 12" 3 ∈ streets.items ∧
      "Η ΟΔΟΣ 12".toList = "Η ".toList ++ ("ΟΔΟΣ".toList ++ " 12".toList) ∧
      .ofValue "Η ΟΔΟΣ 12" 3 ∈ streets.find "ΟΔΟΣ") ∧
    ((streets.find ("ΟΔΟΣ" ++ " 1")).Sublist (streets.find "ΟΔΟΣ") ∧
      streets.find ("ΟΔΟΣ" ++ " 1") = [.ofValue "Η ΟΔΟΣ 12" 3]) ∧
    (("UA" ++ " N").toList <:+: "RUA NOVA".toList ∧
      .ofValue "RUA NOVA" 1 ∈ streets.find ("UA" ++ " N") ∧
      .ofValue "RUA NOVA" 1 ∈ streets.find "UA") := by
  have noSigma : ∀ text : List Char, 'Σ' ∉ text → ¬OpensWithSigma text ∧ ¬ClosesWithSigma text := by
    rintro text absent
    constructor <;>
    · rintro ⟨first, second, rfl, -⟩
      simp at absent
  have inside : ("UA" ++ " N").toList <:+: "RUA NOVA".toList :=
    ⟨['R'], "OVA".toList, by decide⟩
  obtain ⟨-, found, shortened, -⟩ := find_contained_iff_plain_ends "ΟΔΟΣ"
  obtain ⟨-, -, -, foundLatin, -⟩ := find_contained_iff_plain_ends ("UA" ++ " N")
  obtain ⟨-, -, -, -, narrowed⟩ := find_contained_iff_plain_ends "UA"
  have foundLonger := foundLatin.mpr (noSigma _ (by decide)) streets (.ofValue "RUA NOVA" 1)
    (by decide) inside
  refine ⟨⟨by decide, by decide, ?_⟩, ⟨?_, by decide +kernel⟩, inside, foundLonger, ?_⟩
  · apply found streets _ (by decide) "Η ".toList " 12".toList (by decide)
    · intro _
      decide +kernel
    · intro _
      decide +kernel
  · apply shortened
    intro _
    decide +kernel
  · exact narrowed.mpr (noSigma _ (by decide)).2 streets " N" _ foundLonger

/-- The sigma that ends a term is final, and within a longer word it is not: a label that contains
the term as typed is missed, and found once the next letter is typed. -/
theorem not_found_within_word :
    "ΟΔΟΣ".toList <:+: "ΟΔΟΣΑ".toList ∧
    streets.find "ΟΔΟΣ" = [.ofValue "Η ΟΔΟΣ 12" 3] ∧
    streets.find ("ΟΔΟΣ" ++ "Α") = [.ofValue "ΟΔΟΣΑ" 2] ∧
    ¬(∀ (group : FacetGroup) (term : String), ∀ item ∈ group.items,
      term.toList <:+: item.label.toList → item ∈ group.find term) ∧
    ¬(∀ (group : FacetGroup) (term added : String), ∀ item ∈ group.find (term ++ added),
      item ∈ group.find term) := by
  have inside : "ΟΔΟΣ".toList <:+: "ΟΔΟΣΑ".toList := ⟨[], ['Α'], by decide⟩
  have short : streets.find "ΟΔΟΣ" = [.ofValue "Η ΟΔΟΣ 12" 3] := by decide +kernel
  have long : streets.find ("ΟΔΟΣ" ++ "Α") = [.ofValue "ΟΔΟΣΑ" 2] := by decide +kernel
  have missed : .ofValue "ΟΔΟΣΑ" 2 ∉ streets.find "ΟΔΟΣ" := by
    rw [short]
    decide
  refine ⟨inside, short, long, ?_, ?_⟩
  · intro claimed
    exact missed (claimed streets "ΟΔΟΣ" _ (by decide) inside)
  · intro claimed
    apply missed (claimed streets "ΟΔΟΣ" "Α" _ _)
    rw [long]
    exact List.mem_singleton_self _

end FacetedSearch.FacetGroup
