import FacetedSearch.Text
import Mathlib.Data.List.DropRight

/-!
Trimming takes away all blanks at the two ends, and nothing else.

So trimming once is enough, and blanks around a text without blanks are lost without a trace.  What
is left begins and ends with a character that is not blank, and it contains the same parts as
before, as long as these have no blanks at their ends.
-/

namespace FacetedSearch.Text

/-- Whether a text holds a character that is not blank. -/
def isFilled (text : String) : Bool :=
  text.toList.any fun c => !isBlank c

/-- A text begins and ends with a character that is not blank. -/
def IsTidy (text : String) : Prop :=
  (∃ c ∈ text.toList.head?, isBlank c = false) ∧ ∃ c ∈ text.toList.getLast?, isBlank c = false

theorem trimEnd_eq_rdropWhile (text : List Char) : trimEnd text = text.rdropWhile isBlank :=
  rfl

@[simp]
theorem trimStart_trimStart (text : List Char) : trimStart (trimStart text) = trimStart text :=
  List.dropWhile_idempotent isBlank _

@[simp]
theorem trimEnd_trimEnd (text : List Char) : trimEnd (trimEnd text) = trimEnd text := by
  rw [trimEnd_eq_rdropWhile, trimEnd_eq_rdropWhile, List.rdropWhile_idempotent]

/-- Nothing that is cut off at the end uncovers a blank at the start. -/
theorem trimStart_of_isPrefix {text part : List Char} (isPart : part <+: text)
    (trimmedStart : trimStart text = text) : trimStart part = part := by
  unfold trimStart at trimmedStart ⊢
  rw [List.dropWhile_eq_self_iff] at trimmedStart ⊢
  intro nonempty
  rw [isPart.getElem nonempty]
  exact trimmedStart (Nat.lt_of_lt_of_le nonempty isPart.length_le)

theorem trimEnd_isPrefix (text : List Char) : trimEnd text <+: text := by
  rw [trimEnd_eq_rdropWhile]
  exact List.rdropWhile_prefix isBlank text

@[simp]
theorem trimStart_trim (text : List Char) : trimStart (trim text) = trim text :=
  trimStart_of_isPrefix (trimEnd_isPrefix _) (trimStart_trimStart text)

@[simp]
theorem trimEnd_trim (text : List Char) : trimEnd (trim text) = trim text :=
  trimEnd_trimEnd _

theorem trimStart_reverse {text : List Char} (trimmedEnd : trimEnd text = text) :
    trimStart text.reverse = text.reverse := by
  rw [← trimmedEnd, trimEnd, List.reverse_reverse]
  exact trimStart_trimStart _

@[simp]
theorem trim_trim (text : List Char) : trim (trim text) = trim text := by
  rw [trim, trimStart_trim, trimEnd_trim]

@[simp]
theorem trimmed_trimmed (text : String) : trimmed (trimmed text) = trimmed text := by
  unfold trimmed
  rw [String.toList_ofList, trim_trim]

@[simp]
theorem filled?_trimmed (text : String) : filled? (trimmed text) = filled? text := by
  unfold filled?
  rw [trimmed_trimmed]

/-! ## What is left -/

theorem isBlank_head {text : List Char} (trimmedStart : trimStart text = text) :
    ∀ c ∈ text.head?, isBlank c = false := by
  cases text with
  | nil => simp
  | cons first rest =>
      have solid := List.dropWhile_eq_self_iff.mp trimmedStart (Nat.succ_pos _)
      simpa using solid

theorem isBlank_getLast {text : List Char} (trimmedEnd : trimEnd text = text) :
    ∀ c ∈ text.getLast?, isBlank c = false := by
  rw [List.getLast?_eq_head?_reverse]
  exact isBlank_head (trimStart_reverse trimmedEnd)

@[simp]
theorem trim_eq_nil_iff {text : List Char} : trim text = [] ↔ ∀ c ∈ text, isBlank c = true := by
  unfold trim
  rw [trimEnd_eq_rdropWhile, List.rdropWhile_eq_nil_iff]
  constructor
  · intro allBlank
    have nothingLeft : trimStart text = [] := by
      cases left : trimStart text with
      | nil => rfl
      | cons first rest =>
          have solid := isBlank_head (trimStart_trimStart text) first (by simp [left])
          rw [allBlank first (by simp [left])] at solid
          cases solid
    exact List.dropWhile_eq_nil_iff.mp nothingLeft
  · intro allBlank c membership
    exact allBlank c ((List.dropWhile_sublist _).subset membership)

theorem filled?_eq (text : String) :
    filled? text = if isFilled text then some (trimmed text) else none := by
  have empty : (trimmed text).isEmpty = !isFilled text := by
    rw [Bool.eq_iff_iff, String.isEmpty_iff, ← String.toList_eq_nil_iff, trimmed,
      String.toList_ofList, trim_eq_nil_iff]
    simp [isFilled]
  unfold filled?
  simp only [empty]
  cases isFilled text <;> rfl

theorem isTidy_trimmed {text : String} (filled : isFilled text = true) :
    IsTidy (trimmed text) := by
  have nonempty : trim text.toList ≠ [] := by
    rw [Ne, trim_eq_nil_iff]
    simpa [isFilled] using filled
  unfold IsTidy trimmed
  rw [String.toList_ofList]
  constructor
  · refine ⟨_, List.head_mem_head? nonempty, ?_⟩
    exact isBlank_head (trimStart_trim _) _ (List.head_mem_head? nonempty)
  · refine ⟨_, List.getLast_mem_getLast? nonempty, ?_⟩
    exact isBlank_getLast (trimEnd_trim _) _ (List.getLast_mem_getLast? nonempty)

theorem isTidy_of_filled? {text core : String} (found : filled? text = some core) :
    IsTidy core := by
  rw [filled?_eq] at found
  split at found
  next filled =>
    obtain rfl := Option.some.inj found
    exact isTidy_trimmed filled
  next => cases found

theorem infix_trimStart_iff {text part : List Char} (trimmedStart : trimStart part = part) :
    part <:+: trimStart text ↔ part <:+: text := by
  refine ⟨fun inside => inside.trans (List.dropWhile_suffix _).isInfix, ?_⟩
  intro inside
  induction text with
  | nil => exact inside
  | cons c text inductionHypothesis =>
      unfold trimStart at inductionHypothesis ⊢
      rw [List.dropWhile_cons]
      split
      next blank =>
        apply inductionHypothesis
        rcases List.infix_cons_iff.mp inside with first | later
        · -- A part that begins here would begin with a blank.
          cases part with
          | nil => exact List.nil_infix
          | cons head rest =>
              obtain rfl := (List.cons_prefix_cons.mp first).1
              have solid := isBlank_head trimmedStart head rfl
              rw [blank] at solid
              cases solid
        · exact later
      next => exact inside

/-- Trimming a text takes nothing away from a part without blanks at its ends. -/
theorem contains_trim {part : List Char} (tidy : trim part = part) (text : List Char) :
    contains (trim text) part = contains text part := by
  have trimmedStart : trimStart part = part := by
    rw [← tidy]
    exact trimStart_trim part
  have trimmedEnd : trimEnd part = part := by
    rw [← tidy]
    exact trimEnd_trim part
  rw [Bool.eq_iff_iff, contains_eq_true_iff, contains_eq_true_iff, trim, trimEnd,
    ← List.reverse_infix, List.reverse_reverse]
  exact (infix_trimStart_iff (trimStart_reverse trimmedEnd)).trans
    (List.reverse_infix.trans (infix_trimStart_iff trimmedStart))

/-- Blanks around a text without blanks are taken away. -/
theorem trim_surrounded {before text after : List Char}
    (blankBefore : ∀ c ∈ before, isBlank c = true) (blankAfter : ∀ c ∈ after, isBlank c = true)
    (solid : ∀ c ∈ text, isBlank c = false) : trim (before ++ text ++ after) = text := by
  have unblocked : ∀ c ∈ text, ¬isBlank c = true := fun c membership => by
    rw [solid c membership]
    exact Bool.false_ne_true
  cases text with
  | nil =>
      have all : ∀ c ∈ before ++ [] ++ after, isBlank c = true := by
        simpa [or_imp, forall_and] using ⟨blankBefore, blankAfter⟩
      unfold trim trimStart
      rw [List.dropWhile_eq_nil_iff.mpr all]
      rfl
  | cons first rest =>
      have opened : trimStart (before ++ (first :: rest) ++ after) = first :: rest ++ after := by
        unfold trimStart
        rw [List.append_assoc, List.dropWhile_append_of_pos blankBefore, List.cons_append,
          List.dropWhile_cons_of_neg (unblocked first List.mem_cons_self)]
      have closed : (first :: rest).rdropWhile isBlank = first :: rest :=
        List.rdropWhile_eq_self_iff.mpr fun nonempty => unblocked _ (List.getLast_mem nonempty)
      unfold trim
      rw [opened, trimEnd, List.reverse_append,
        List.dropWhile_append_of_pos fun c membership =>
          blankAfter c (List.mem_reverse.mp membership)]
      exact closed

end FacetedSearch.Text
