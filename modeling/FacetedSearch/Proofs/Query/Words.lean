import FacetedSearch.Proofs.Query.FacetGroups

/-!
# The words of an expression

The engine takes every word of an expression for a clause of its own.  A blank divides words unless
a backslash stands before it or quotes stand around it.  Escaped text neither opens nor closes
quotes, and no character that is escaped is a blank, so escaping as such keeps no words together.
-/

namespace FacetedSearch.Query

/-- The characters of a text, each with whether a backslash or quotes guard it. -/
def guards (quoted : Bool) : List Char → List (Char × Bool)
  | [] => []
  | '\\' :: c :: rest => ('\\', true) :: (c, true) :: guards quoted rest
  | '"' :: rest => ('"', true) :: guards (!quoted) rest
  | c :: rest => (c, quoted) :: guards quoted rest

/-- Whether a character divides words. -/
def divides (entry : Char × Bool) : Bool :=
  Text.isBlank entry.1 && !entry.2

/-- What stands between the blanks that nothing guards.  Escapes and quotes stay as they are. -/
def words (text : List Char) : List (List Char) :=
  ((guards false text).splitOnP divides).map (·.map Prod.fst)

theorem guards_cons {c : Char} (noQuote : c ≠ '"') (noBackslash : c ≠ '\\') (quoted : Bool)
    (rest : List Char) : guards quoted (c :: rest) = (c, quoted) :: guards quoted rest := by
  apply guards.eq_4
  · intro second tail backslash
    exact absurd backslash noBackslash
  · exact noQuote

@[simp]
theorem map_fst_guards (quoted : Bool) (text : List Char) :
    (guards quoted text).map Prod.fst = text := by
  fun_induction guards quoted text with
  | case1 => rfl
  | case2 quoted c rest inductionHypothesis =>
      rw [List.map_cons, List.map_cons, inductionHypothesis]
  | case3 quoted rest inductionHypothesis => rw [List.map_cons, inductionHypothesis]
  | case4 quoted c rest _ _ inductionHypothesis => rw [List.map_cons, inductionHypothesis]

theorem guards_append {text : List Char} (plain : ∀ c ∈ text, c ≠ '"' ∧ c ≠ '\\')
    (quoted : Bool) (rest : List Char) :
    guards quoted (text ++ rest) = text.map (·, quoted) ++ guards quoted rest := by
  induction text with
  | nil => rfl
  | cons c text inductionHypothesis =>
      obtain ⟨⟨noQuote, noBackslash⟩, later⟩ := List.forall_mem_cons.mp plain
      rw [List.cons_append, guards_cons noQuote noBackslash, inductionHypothesis later]
      rfl

section

variable {special : Char → Bool} (quote : special '"' = true) (backslash : special '\\' = true)

include quote backslash

theorem guards_cons_of_not_special {c : Char} (ordinary : ¬special c = true) (quoted : Bool)
    (rest : List Char) : guards quoted (c :: rest) = (c, quoted) :: guards quoted rest := by
  apply guards_cons
  · rintro rfl
    exact ordinary quote
  · rintro rfl
    exact ordinary backslash

/-- An escaped text neither opens nor closes quotes. -/
theorem guards_escapeWith_append (quoted : Bool) (text rest : List Char) :
    guards quoted (escapeWith special text ++ rest) =
      guards quoted (escapeWith special text) ++ guards quoted rest := by
  induction text with
  | nil => rfl
  | cons c text inductionHypothesis =>
      by_cases isSpecial : special c = true
      · simp only [escapeWith, isSpecial, if_true, List.cons_append, guards, inductionHypothesis]
      · simp only [escapeWith, isSpecial, if_false, List.cons_append, inductionHypothesis,
          guards_cons_of_not_special quote backslash isSpecial, Bool.false_eq_true]

/-- Only special characters are guarded in an escaped text outside quotes. -/
theorem guarded_of_mem_guards_escapeWith {quoted : Bool} {text : List Char} {entry : Char × Bool}
    (membership : entry ∈ guards quoted (escapeWith special text))
    (ordinary : ¬special entry.1 = true) : entry.2 = quoted := by
  induction text with
  | nil => cases membership
  | cons c text inductionHypothesis =>
      by_cases isSpecial : special c = true
      · simp only [escapeWith, isSpecial, if_true, guards, List.mem_cons] at membership
        rcases membership with rfl | rfl | later
        · exact absurd backslash ordinary
        · exact absurd isSpecial ordinary
        · exact inductionHypothesis later
      · rw [escapeWith, if_neg isSpecial, guards_cons_of_not_special quote backslash isSpecial,
          List.mem_cons] at membership
        rcases membership with rfl | later
        · rfl
        · exact inductionHypothesis later

end

/-! ## Splitting -/

section

variable {Entry Other : Type} {divider : Entry → Bool}

theorem map_splitOnP {otherDivider : Other → Bool} {view : Entry → Other} {entries : List Entry}
    (agree : ∀ entry ∈ entries, divider entry = otherDivider (view entry)) :
    (entries.splitOnP divider).map (·.map view) = (entries.map view).splitOnP otherDivider := by
  induction entries with
  | nil => rfl
  | cons entry entries inductionHypothesis =>
      obtain ⟨same, later⟩ := List.forall_mem_cons.mp agree
      rw [List.map_cons, List.splitOnP_cons_eq_if_modifyHead, List.splitOnP_cons_eq_if_modifyHead,
        ← inductionHypothesis later, same]
      split
      next => rfl
      next => cases entries.splitOnP divider <;> rfl

theorem length_splitOnP (entries : List Entry) :
    (entries.splitOnP divider).length = entries.countP divider + 1 := by
  induction entries with
  | nil => rfl
  | cons entry entries inductionHypothesis =>
      rw [List.splitOnP_cons_eq_if_modifyHead, List.countP_cons]
      split
      next => rw [List.length_cons, inductionHypothesis]
      next => rw [List.length_modifyHead, inductionHypothesis, Nat.add_zero]

/-- Parts with a divider before each are split one by one. -/
theorem splitOnP_append_flatMap {separator : Entry} (divided : divider separator = true)
    (entries : List Entry) (parts : List (List Entry)) :
    (entries ++ parts.flatMap (separator :: ·)).splitOnP divider =
      entries.splitOnP divider ++ parts.flatMap (·.splitOnP divider) := by
  induction parts generalizing entries with
  | nil => rw [List.flatMap_nil, List.flatMap_nil, List.append_nil, List.append_nil]
  | cons part parts inductionHypothesis =>
      rw [List.flatMap_cons, List.flatMap_cons, List.cons_append,
        List.splitOnP_append_cons _ _ divided, inductionHypothesis]

end

/-! ## Blanks -/

theorem isBlank_of_isNameChar {c : Char} (inName : isNameChar c = true) :
    Text.isBlank c = false := by
  have unnamed : ∀ range ∈ Text.blankRanges, ∀ place < range.2 + 1 - range.1,
      isNameChar (Char.ofNat (range.1 + place)) = false := by decide +kernel
  rw [← Bool.not_eq_true]
  intro blank
  obtain ⟨range, isRange, within⟩ := List.any_eq_true.mp blank
  rw [Bool.and_eq_true, decide_eq_true_eq, decide_eq_true_eq] at within
  have notInName := unnamed range isRange (c.toNat - range.1) (by omega)
  rw [Nat.add_sub_cancel' within.1, Char.ofNat_toNat, inName] at notInName
  cases notInName

theorem isBlank_of_isReserved {c : Char} (reserved : isReserved c = true) :
    Text.isBlank c = false := by
  have unblank : (reservedChars.any Text.isBlank) = false := by decide +kernel
  rw [List.any_eq_false] at unblank
  rw [← Bool.not_eq_true]
  exact unblank c (List.contains_iff_mem.mp reserved)

theorem toList_filterPart (filters : FilterSet) :
    (filterPart filters).toList =
      filters.fragments.flatMap fun fragment => ' ' :: fragment.toList := by
  unfold filterPart
  cases filters.fragments with
  | nil => rfl
  | cons fragment fragments =>
      rw [List.isEmpty_cons, if_neg Bool.false_ne_true, String.toList_append, intercalate_cons]
      rfl

end FacetedSearch.Query
