import FacetedSearch.Query.Escape

/-!
Reading escaped text back.

A reader of an expression knows a character that stands for itself by the backslash before it.  So
it finds the quotes that end a phrase, and gets the phrase back by taking the backslashes away.
-/

namespace FacetedSearch.Query

/-- The text without the backslashes that escape, where an escaped backslash is a character like any
other. -/
def unescape : List Char → List Char
  | [] => []
  | '\\' :: c :: rest => c :: unescape rest
  | c :: rest => c :: unescape rest

/-- The pieces of a text between the quotes that no backslash escapes.  Escapes stay as they are. -/
def pieces : List Char → List (List Char)
  | [] => [[]]
  | '"' :: rest => [] :: pieces rest
  | '\\' :: c :: rest => (pieces rest).modifyHead (['\\', c] ++ ·)
  | c :: rest => (pieces rest).modifyHead (c :: ·)

/-- The text up to the first mark that no backslash escapes, read without its escapes, and what
stands behind the mark. -/
def upTo? (mark : Char) : List Char → Option (List Char × List Char)
  | [] => none
  | '\\' :: c :: rest => (upTo? mark rest).map fun found => (c :: found.1, found.2)
  | c :: rest =>
      if c = mark then some ([], rest)
      else (upTo? mark rest).map fun found => (c :: found.1, found.2)

/-- The characters that no backslash escapes, without the backslashes that escape. -/
def bare : List Char → List Char
  | [] => []
  | '\\' :: _ :: rest => bare rest
  | c :: rest => c :: bare rest

theorem unescape_cons {c : Char} (plain : c ≠ '\\') (rest : List Char) :
    unescape (c :: rest) = c :: unescape rest := by
  apply unescape.eq_3
  intro second tail backslash
  exact absurd backslash plain

theorem pieces_cons {c : Char} (noQuote : c ≠ '"') (noBackslash : c ≠ '\\') (rest : List Char) :
    pieces (c :: rest) = (pieces rest).modifyHead (c :: ·) := by
  apply pieces.eq_4
  · exact noQuote
  · intro second tail backslash
    exact absurd backslash noBackslash

theorem upTo?_cons {c : Char} (plain : c ≠ '\\') (mark : Char) (rest : List Char) :
    upTo? mark (c :: rest) =
      if c = mark then some ([], rest)
      else (upTo? mark rest).map fun found => (c :: found.1, found.2) := by
  apply upTo?.eq_3
  intro second tail backslash
  exact absurd backslash plain

theorem bare_cons {c : Char} (plain : c ≠ '\\') (rest : List Char) :
    bare (c :: rest) = c :: bare rest := by
  apply bare.eq_3
  intro second tail backslash
  exact absurd backslash plain

theorem ne_backslash {special : Char → Bool} {c : Char} (backslash : special '\\' = true)
    (ordinary : ¬special c = true) : c ≠ '\\' := by
  rintro rfl
  exact ordinary backslash

/-- Whatever is escaped besides it, a text whose backslashes are escaped can be read back. -/
theorem unescape_escapeWith {special : Char → Bool} (backslash : special '\\' = true)
    (text : List Char) : unescape (escapeWith special text) = text := by
  induction text with
  | nil => rfl
  | cons c rest inductionHypothesis =>
      by_cases isSpecial : special c = true
      · simp only [escapeWith, isSpecial, if_true, unescape, inductionHypothesis]
      · have plain := ne_backslash backslash isSpecial
        rw [escapeWith, if_neg isSpecial, unescape_cons plain, inductionHypothesis]

/-- Text without quotes and backslashes lies within one piece. -/
theorem pieces_append {text : List Char} (plain : ∀ c ∈ text, c ≠ '"' ∧ c ≠ '\\')
    (rest : List Char) : pieces (text ++ rest) = (pieces rest).modifyHead (text ++ ·) := by
  induction text with
  | nil => exact (congrFun List.modifyHead_id _).symm
  | cons c text inductionHypothesis =>
      obtain ⟨⟨noQuote, noBackslash⟩, later⟩ := List.forall_mem_cons.mp plain
      rw [List.cons_append, pieces_cons noQuote noBackslash, inductionHypothesis later,
        List.modifyHead_modifyHead]
      rfl

/-- An escaped phrase lies within one piece. -/
theorem pieces_escapeWith_append (phrase rest : List Char) :
    pieces (escapeWith isPhraseSpecial phrase ++ rest) =
      (pieces rest).modifyHead (escapeWith isPhraseSpecial phrase ++ ·) := by
  induction phrase with
  | nil => exact (congrFun List.modifyHead_id _).symm
  | cons c phrase inductionHypothesis =>
      by_cases isSpecial : isPhraseSpecial c = true
      · simp only [escapeWith, isSpecial, if_true, List.cons_append, pieces, inductionHypothesis,
          List.modifyHead_modifyHead]
        rfl
      · have plain : c ≠ '"' ∧ c ≠ '\\' := by
          simpa [isPhraseSpecial] using isSpecial
        rw [escapeWith, if_neg isSpecial, List.cons_append, pieces_cons plain.1 plain.2,
          inductionHypothesis, List.modifyHead_modifyHead]
        rfl

/-- A quoted phrase behind plain text makes two pieces. -/
theorem pieces_quoted {text : List Char} (plain : ∀ c ∈ text, c ≠ '"' ∧ c ≠ '\\')
    (phrase rest : List Char) :
    pieces (text ++ '"' :: escapeWith isPhraseSpecial phrase ++ '"' :: rest) =
      text :: escapeWith isPhraseSpecial phrase :: pieces rest := by
  rw [List.append_assoc, pieces_append plain, List.cons_append, pieces, pieces_escapeWith_append,
    pieces]
  simp

/-- A mark that is escaped within a text ends it when it stands behind the text by itself. -/
theorem upTo?_escapeWith_append {special : Char → Bool} {mark : Char}
    (backslash : special '\\' = true) (marked : special mark = true) (plainMark : mark ≠ '\\')
    (text rest : List Char) :
    upTo? mark (escapeWith special text ++ mark :: rest) = some (text, rest) := by
  induction text with
  | nil => rw [escapeWith, List.nil_append, upTo?_cons plainMark, if_pos rfl]
  | cons c text inductionHypothesis =>
      by_cases isSpecial : special c = true
      · simp only [escapeWith, isSpecial, if_true, List.cons_append, upTo?, inductionHypothesis,
          Option.map_some]
      · have plain := ne_backslash backslash isSpecial
        have unmarked : c ≠ mark := by
          rintro rfl
          exact isSpecial marked
        rw [escapeWith, if_neg isSpecial, List.cons_append, upTo?_cons plain, if_neg unmarked,
          inductionHypothesis]
        rfl

theorem length_lt_of_upTo? {mark : Char} {text value rest : List Char}
    (found : upTo? mark text = some (value, rest)) : rest.length < text.length := by
  fun_induction upTo? mark text generalizing value with
  | case1 => cases found
  | case2 c text inductionHypothesis =>
      obtain ⟨inner, later, same⟩ := Option.map_eq_some_iff.mp found
      obtain ⟨-, rfl⟩ := Prod.mk.inj same
      exact Nat.lt_succ_of_lt (Nat.lt_succ_of_lt (inductionHypothesis later))
  | case3 text =>
      obtain ⟨-, rfl⟩ := Prod.mk.inj (Option.some.inj found)
      exact Nat.lt_succ_self _
  | case4 c text _ _ inductionHypothesis =>
      obtain ⟨inner, later, same⟩ := Option.map_eq_some_iff.mp found
      obtain ⟨-, rfl⟩ := Prod.mk.inj same
      exact Nat.lt_succ_of_lt (inductionHypothesis later)

theorem bare_append {text : List Char} (plain : ∀ c ∈ text, c ≠ '\\') (rest : List Char) :
    bare (text ++ rest) = text ++ bare rest := by
  induction text with
  | nil => rfl
  | cons c text inductionHypothesis =>
      obtain ⟨plainFirst, later⟩ := List.forall_mem_cons.mp plain
      rw [List.cons_append, bare_cons plainFirst, inductionHypothesis later]
      rfl

/-- Of an escaped text just those characters are bare that are not special. -/
theorem bare_escapeWith_append {special : Char → Bool} (backslash : special '\\' = true)
    (text rest : List Char) :
    bare (escapeWith special text ++ rest) = text.filter (!special ·) ++ bare rest := by
  induction text with
  | nil => rfl
  | cons c text inductionHypothesis =>
      by_cases isSpecial : special c = true
      · simp only [escapeWith, isSpecial, if_true, List.cons_append, bare, inductionHypothesis,
          List.filter_cons, Bool.not_true, Bool.false_eq_true, if_false]
      · have plain := ne_backslash backslash isSpecial
        rw [escapeWith, if_neg isSpecial, List.cons_append, bare_cons plain, inductionHypothesis,
          List.filter_cons_of_pos (by simp [isSpecial])]
        rfl

end FacetedSearch.Query
