import FacetedSearch.Proofs.Query.Escape
import Mathlib.Data.List.DropRight

/-!
# Which characters are escaped

A backslash takes away the meaning of the next character, and so that of a backslash behind it: what
follows a text is escaped if the text ends in an odd number of backslashes.  Escaped text ends in an
even number, so what closes it keeps its meaning, and within it exactly those characters are escaped
that need it.
-/

namespace FacetedSearch.Query

/-- Whether the character behind a text is escaped by it. -/
def escapesNext (text : List Char) : Bool :=
  (text.rtakeWhile (· == '\\')).length % 2 == 1

/-- Whether a character behind a text stands for itself.  A backslash that is not escaped does not:
it escapes the next character. -/
def standsForItself (before : List Char) (c : Char) : Bool :=
  c != '\\' || escapesNext before

/-- The characters that stand for themselves in a text behind another. -/
def ownCharacters (before : List Char) : List Char → List Char
  | [] => []
  | c :: rest =>
      if standsForItself before c then c :: ownCharacters (before ++ [c]) rest
      else ownCharacters (before ++ [c]) rest

/-- What it means to escape the special characters, and nothing else.  The text can be read back, as
the characters that stand for themselves are its own.  Each of them that is special stands behind a
backslash that is not escaped; no other character is escaped, and neither is what comes behind.
Texts are escaped piece by piece, and only a text without special characters is not escaped further
when it is escaped again. -/
structure IsEscaping (special : Char → Bool) (escape : String → String) : Prop where
  readBack : ∀ text, String.ofList (unescape (escape text).toList) = text
  injective : Function.Injective escape
  own : ∀ text, ownCharacters [] (escape text).toList = text.toList
  guarded : ∀ text before c after, (escape text).toList = before ++ c :: after →
    special c = true → standsForItself before c = true →
      ∃ earlier, before = earlier ++ ['\\'] ∧ escapesNext earlier = false
  special_of_escaped : ∀ text before c after, (escape text).toList = before ++ c :: after →
    escapesNext before = true → special c = true
  closed : ∀ text, escapesNext (escape text).toList = false
  append : ∀ first second, escape (first ++ second) = escape first ++ escape second
  twice_iff : ∀ text, escape (escape text) = escape text ↔ ∀ c ∈ text.toList, ¬special c = true

/-! ## Runs of backslashes -/

@[simp]
theorem escapesNext_append_singleton (text : List Char) (c : Char) :
    escapesNext (text ++ [c]) = (c == '\\' && !escapesNext text) := by
  unfold escapesNext
  rw [List.rtakeWhile_concat]
  cases c == '\\' with
  | false => rfl
  | true =>
      rw [if_pos rfl, List.length_append, List.length_singleton, Bool.true_and, Bool.eq_iff_iff]
      simp only [beq_iff_eq, Bool.not_eq_true', beq_eq_false_iff_ne]
      omega

/-- What escapes the next character ends in a backslash that is not escaped. -/
theorem escapesNext_eq_true_iff (text : List Char) :
    escapesNext text = true ↔
      ∃ earlier, text = earlier ++ ['\\'] ∧ escapesNext earlier = false := by
  constructor
  · intro escapes
    rcases text.eq_nil_or_concat with rfl | ⟨earlier, c, rfl⟩
    · cases escapes
    · rw [List.concat_eq_append, escapesNext_append_singleton, Bool.and_eq_true, beq_iff_eq,
        Bool.not_eq_true'] at escapes
      exact ⟨earlier, by rw [List.concat_eq_append, escapes.1], escapes.2⟩
  · rintro ⟨earlier, rfl, unescaped⟩
    rw [escapesNext_append_singleton, unescaped]
    rfl

/-- A text that escapes nothing has no say in what the next one escapes. -/
theorem escapesNext_append {text : List Char} (closed : escapesNext text = false)
    (rest : List Char) : escapesNext (text ++ rest) = escapesNext rest := by
  induction rest using List.reverseRecOn with
  | nil => rw [List.append_nil, closed]; rfl
  | append_singleton rest c inductionHypothesis =>
      rw [← List.append_assoc, escapesNext_append_singleton, escapesNext_append_singleton,
        inductionHypothesis]

theorem escapesNext_singleton {c : Char} (plain : c ≠ '\\') : escapesNext [c] = false := by
  rw [← List.nil_append [c], escapesNext_append_singleton, beq_false_of_ne plain]
  rfl

@[simp]
theorem escapesNext_escape (c : Char) : escapesNext ['\\', c] = false := by
  have opened : escapesNext ['\\'] = true := rfl
  rw [← List.singleton_append, escapesNext_append_singleton, opened]
  exact Bool.and_false _

/-! ## Escaped text -/

section

variable {special : Char → Bool}

@[simp]
theorem length_escapeWith (text : List Char) :
    (escapeWith special text).length = text.length + text.countP special := by
  induction text with
  | nil => rfl
  | cons c text inductionHypothesis =>
      rw [escapeWith, List.countP_cons, List.length_cons]
      split <;> simp only [List.length_cons, inductionHypothesis] <;> omega

/-- Only text without special characters stays as it is. -/
@[simp]
theorem escapeWith_eq_self_iff (text : List Char) :
    escapeWith special text = text ↔ ∀ c ∈ text, ¬special c = true := by
  constructor
  · intro same
    have counted : (escapeWith special text).length = _ := length_escapeWith text
    rw [same] at counted
    exact List.countP_eq_zero.mp (Nat.left_eq_add.mp counted)
  · intro plain
    induction text with
    | nil => rfl
    | cons c text inductionHypothesis =>
        obtain ⟨ordinary, later⟩ := List.forall_mem_cons.mp plain
        rw [escapeWith, if_neg ordinary, inductionHypothesis later]

variable (backslash : special '\\' = true)

include backslash

/-- What is behind an escaped text is not escaped by it. -/
@[simp]
theorem escapesNext_escapeWith (text : List Char) :
    escapesNext (escapeWith special text) = false := by
  induction text with
  | nil => rfl
  | cons c text inductionHypothesis =>
      by_cases isSpecial : special c = true
      · rw [escapeWith, if_pos isSpecial]
        exact (escapesNext_append (escapesNext_escape c) _).trans inductionHypothesis
      · have closed := escapesNext_singleton (ne_backslash backslash isSpecial)
        rw [escapeWith, if_neg isSpecial]
        exact (escapesNext_append closed _).trans inductionHypothesis

theorem ownCharacters_escapeWith {before : List Char} (closed : escapesNext before = false)
    (text : List Char) : ownCharacters before (escapeWith special text) = text := by
  induction text generalizing before with
  | nil => rfl
  | cons c text inductionHypothesis =>
      by_cases isSpecial : special c = true
      · have escapes : standsForItself before '\\' = false := closed
        have opened : escapesNext (before ++ ['\\']) = true :=
          (escapesNext_eq_true_iff _).mpr ⟨before, rfl, closed⟩
        have stands : standsForItself (before ++ ['\\']) c = true := by
          rw [standsForItself, opened, Bool.or_true]
        have closedAgain : escapesNext (before ++ ['\\'] ++ [c]) = false := by
          rw [escapesNext_append_singleton, opened, Bool.not_true, Bool.and_false]
        rw [escapeWith, if_pos isSpecial, ownCharacters, escapes, if_neg Bool.false_ne_true,
          ownCharacters, if_pos stands, inductionHypothesis closedAgain]
      · have plain := ne_backslash backslash isSpecial
        have stands : standsForItself before c = true := by
          rw [standsForItself, bne_iff_ne.mpr plain, Bool.true_or]
        have closedAgain : escapesNext (before ++ [c]) = false := by
          rw [escapesNext_append closed, escapesNext_singleton plain]
        rw [escapeWith, if_neg isSpecial, ownCharacters, if_pos stands,
          inductionHypothesis closedAgain]

/-- Within escaped text just the special characters are escaped, apart from the backslashes that
escape them. -/
theorem escapesNext_of_split {text before after : List Char} {c : Char}
    (split : escapeWith special text = before ++ c :: after) :
    (escapesNext before = true → special c = true) ∧
      (special c = true → standsForItself before c = true → escapesNext before = true) := by
  induction text generalizing before with
  | nil => cases before <;> cases split
  | cons first text inductionHypothesis =>
      -- The first character takes two places or one, and the split lies there or behind.
      by_cases isSpecial : special first = true
      · rw [escapeWith, if_pos isSpecial] at split
        rcases before with _ | ⟨mark, _ | ⟨own, before⟩⟩
        · obtain ⟨rfl, -⟩ := List.cons.inj split
          exact ⟨fun escaped => absurd escaped Bool.false_ne_true, fun _ => id⟩
        · obtain ⟨rfl, later⟩ := List.cons.inj split
          obtain ⟨rfl, -⟩ := List.cons.inj later
          exact ⟨fun _ => isSpecial, fun _ _ => rfl⟩
        · obtain ⟨rfl, later⟩ := List.cons.inj split
          obtain ⟨rfl, rest⟩ := List.cons.inj later
          have passed : escapesNext ('\\' :: first :: before) = escapesNext before :=
            escapesNext_append (escapesNext_escape first) before
          rw [standsForItself, passed]
          exact inductionHypothesis rest
      · rw [escapeWith, if_neg isSpecial] at split
        rcases before with _ | ⟨own, before⟩
        · obtain ⟨rfl, -⟩ := List.cons.inj split
          exact ⟨fun escaped => absurd escaped Bool.false_ne_true,
            fun needed => absurd needed isSpecial⟩
        · obtain ⟨rfl, rest⟩ := List.cons.inj split
          have passed : escapesNext (first :: before) = escapesNext before :=
            escapesNext_append (escapesNext_singleton (ne_backslash backslash isSpecial)) before
          rw [standsForItself, passed]
          exact inductionHypothesis rest

theorem isEscaping_escapeWith :
    IsEscaping special fun text => String.ofList (escapeWith special text.toList) := by
  have readBack : Function.LeftInverse
      (fun written : String => String.ofList (unescape written.toList))
      fun text : String => String.ofList (escapeWith special text.toList) := by
    intro text
    simp only [String.toList_ofList, unescape_escapeWith backslash, String.ofList_toList]
  have injective := readBack.injective
  refine ⟨readBack, injective, ?own, ?guarded, ?special_of_escaped, ?closed, ?append, ?twice_iff⟩
  case own =>
    intro text
    rw [String.toList_ofList]
    exact ownCharacters_escapeWith backslash rfl text.toList
  case guarded =>
    intro text before c after split isSpecial stands
    rw [String.toList_ofList] at split
    exact (escapesNext_eq_true_iff before).mp
      ((escapesNext_of_split backslash split).2 isSpecial stands)
  case special_of_escaped =>
    intro text before c after split
    rw [String.toList_ofList] at split
    exact (escapesNext_of_split backslash split).1
  case closed =>
    intro text
    rw [String.toList_ofList]
    exact escapesNext_escapeWith backslash text.toList
  case append =>
    intro first second
    rw [String.toList_append, escapeWith_append, String.ofList_append]
  case twice_iff =>
    intro text
    rw [injective.eq_iff, ← escapeWith_eq_self_iff, ← String.toList_inj, String.toList_ofList]

end

/-- Literals and phrases are escaped by the same laws, each for the characters with a meaning in it.
-/
theorem isEscaping_literal_and_phrase :
    IsEscaping isReserved escapeLiteral ∧ IsEscaping isPhraseSpecial escapePhrase :=
  ⟨isEscaping_escapeWith rfl, isEscaping_escapeWith rfl⟩

/-- In a literal the quote and the star are escaped, each behind a backslash that is not; in a
phrase the star is left as it is.  What is escaped again gets more backslashes. -/
theorem isEscaping_literal_and_phrase_quotedStar :
    escapeLiteral "\"a*" = "\\\"a\\*" ∧ escapePhrase "\"a*" = "\\\"a*" ∧
      ownCharacters [] "\\\"a\\*".toList = "\"a*".toList ∧
      (∃ earlier, "\\\"a\\".toList = earlier ++ ['\\'] ∧ escapesNext earlier = false) ∧
      escapesNext "\\\"a\\*".toList = false ∧
      escapeLiteral (escapeLiteral "\"a*") ≠ escapeLiteral "\"a*" ∧
      escapePhrase (escapePhrase "a*") = escapePhrase "a*" := by
  obtain ⟨literal, phrase⟩ := isEscaping_literal_and_phrase
  have written : escapeLiteral "\"a*" = "\\\"a\\*" := by decide +kernel
  have own := literal.own "\"a*"
  have closed := literal.closed "\"a*"
  have guarded := literal.guarded "\"a*" "\\\"a\\".toList '*' []
  rw [written] at own closed guarded
  refine ⟨written, by decide +kernel, own, guarded (by decide +kernel) rfl rfl, closed, ?_, ?_⟩
  · intro same
    exact absurd ((literal.twice_iff "\"a*").mp same '*' (by decide +kernel)) (by decide +kernel)
  · have ordinary : ∀ c ∈ "a*".toList, ¬isPhraseSpecial c = true := by
      simp [isPhraseSpecial]
    exact (phrase.twice_iff "a*").mpr ordinary

end FacetedSearch.Query
