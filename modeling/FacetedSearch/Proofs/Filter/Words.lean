import FacetedSearch.Proofs.Filter.TextClauses
import FacetedSearch.Proofs.Query.Words
import Mathlib.Algebra.Ring.Nat

/-!
# The words of text clauses

The clauses of filters stand behind each other with a space between them.  A value cannot end its
quotes, so the clause of an exact value stays one word.  The marks of the other operators guard
nothing, and blanks are not escaped: these clauses fall apart at every blank of their values, and
only the first word still names the field.
-/

namespace FacetedSearch

open Query

/-- Whether the marks of an operator are quotes. -/
def Operator.quotes : Operator → Bool
  | .equals => true
  | .contains | .notContains => false

namespace TextClause

/-- The words that a clause falls into. -/
def shards (clause : TextClause) : List (List Char) :=
  if clause.operator.quotes then [clause.text.toList]
  else clause.text.toList.splitOnP Text.isBlank

/-- How many blanks of a clause nothing guards. -/
def breaks (clause : TextClause) : Nat :=
  if clause.operator.quotes then 0 else clause.value.toList.countP Text.isBlank

/-- What a clause has in front of its value, but for the mark. -/
def front (clause : TextClause) : List Char :=
  clause.operator.lead ++ clause.field.toList ++ [':']

/-- The characters of a clause, each with whether it is guarded. -/
def guarded (clause : TextClause) : List (Char × Bool) :=
  let quoted := clause.operator.quotes
  clause.front.map (·, false) ++
    (clause.operator.mark, quoted) ::
      (guards quoted (escapeWith isReserved clause.value.toList) ++
        [(clause.operator.mark, quoted)])

variable {clause : TextClause}

theorem toList_text_eq (clause : TextClause) :
    clause.text.toList = clause.front ++ clause.operator.mark ::
      (escapeWith isReserved clause.value.toList ++ [clause.operator.mark]) := by
  rw [toList_text]
  simp [front]

theorem plain_of_mem_lead (operator : Operator) : ∀ c ∈ operator.lead, c ≠ '"' ∧ c ≠ '\\' := by
  intro c membership
  cases operator with
  | notContains =>
      obtain rfl := List.mem_singleton.mp membership
      decide
  | contains | equals => cases membership

theorem isBlank_of_mem_front (isName : IsName clause.field) {c : Char}
    (membership : c ∈ clause.front) : Text.isBlank c = false := by
  rcases List.mem_append.mp membership with front | colon
  · rcases List.mem_append.mp front with inLead | inName
    · apply isBlank_of_isReserved
      rw [← clause.operator.filter_isReserved_lead] at inLead
      exact (List.mem_filter.mp inLead).2
    · exact isBlank_of_isNameChar (List.all_eq_true.mp isName c inName)
  · obtain rfl := List.mem_singleton.mp colon
    decide +kernel

theorem guards_enclosed (operator : Operator) (value rest : List Char) :
    guards false (operator.mark :: (escapeWith isReserved value ++ operator.mark :: rest)) =
      (operator.mark, operator.quotes) ::
        (guards operator.quotes (escapeWith isReserved value) ++
          (operator.mark, operator.quotes) :: guards false rest) := by
  have quote : isReserved '"' = true := rfl
  have backslash : isReserved '\\' = true := rfl
  cases operator with
  | equals =>
      simp only [Operator.mark, Operator.quotes, guards, Bool.not_false, Bool.not_true,
        guards_escapeWith_append quote backslash]
  | contains | notContains =>
      simp only [Operator.mark, Operator.quotes]
      rw [guards_cons (by decide) (by decide), guards_escapeWith_append quote backslash,
        guards_cons (by decide) (by decide)]

/-- What stands behind a clause is guarded as if it stood alone. -/
theorem guards_text_append (isName : IsName clause.field) (rest : List Char) :
    guards false (clause.text.toList ++ rest) = clause.guarded ++ guards false rest := by
  have plain : ∀ c ∈ clause.front, c ≠ '"' ∧ c ≠ '\\' :=
    isName.plain (plain_of_mem_lead clause.operator)
  have written : clause.text.toList ++ rest = clause.front ++ clause.operator.mark ::
      (escapeWith isReserved clause.value.toList ++ clause.operator.mark :: rest) := by
    rw [toList_text_eq]
    simp
  rw [written, guards_append plain, guards_enclosed]
  simp [guarded]

theorem map_fst_guarded (isName : IsName clause.field) :
    clause.guarded.map Prod.fst = clause.text.toList := by
  have alone := guards_text_append isName []
  rw [List.append_nil, guards, List.append_nil] at alone
  rw [← alone, map_fst_guards]

/-- Quotes guard every blank of a value, and the other marks none. -/
theorem divides_of_mem_guarded (isName : IsName clause.field) {entry : Char × Bool}
    (membership : entry ∈ clause.guarded) :
    divides entry = (Text.isBlank entry.1 && !clause.operator.quotes) := by
  unfold divides
  -- What is escaped is no blank, so only the quotes decide.
  by_cases reserved : isReserved entry.1 = true
  · rw [isBlank_of_isReserved reserved, Bool.false_and, Bool.false_and]
  · rcases List.mem_append.mp membership with front | enclosed
    · obtain ⟨c, inFront, rfl⟩ := List.mem_map.mp front
      rw [isBlank_of_mem_front isName inFront, Bool.false_and, Bool.false_and]
    · simp only [List.mem_cons, List.mem_append, List.not_mem_nil, or_false] at enclosed
      rcases enclosed with rfl | inValue | rfl
      · rfl
      · rw [guarded_of_mem_guards_escapeWith rfl rfl inValue reserved]
      · rfl

theorem shards_eq (isName : IsName clause.field) :
    (clause.guarded.splitOnP divides).map (·.map Prod.fst) = clause.shards := by
  have divided : ∀ entry ∈ clause.guarded,
      divides entry = (Text.isBlank entry.1 && !clause.operator.quotes) :=
    fun _ membership => divides_of_mem_guarded isName membership
  unfold shards
  split
  next quoted =>
    have whole : ∀ entry ∈ clause.guarded, divides entry = false := by
      intro entry membership
      rw [divided entry membership, quoted, Bool.not_true, Bool.and_false]
    rw [List.splitOnP_eq_singleton whole, List.map_singleton, map_fst_guarded isName]
  next unquoted =>
    rw [← map_fst_guarded isName]
    apply map_splitOnP
    intro entry membership
    rw [divided entry membership, Bool.eq_false_iff.mpr unquoted, Bool.not_false, Bool.and_true]

theorem guards_flatMap {clauses : List TextClause}
    (named : ∀ clause ∈ clauses, IsName clause.field) :
    guards false (clauses.flatMap fun clause => ' ' :: clause.text.toList) =
      (clauses.map guarded).flatMap ((' ', false) :: ·) := by
  induction clauses with
  | nil => rfl
  | cons clause clauses inductionHypothesis =>
      obtain ⟨isName, namedLater⟩ := List.forall_mem_cons.mp named
      rw [List.flatMap_cons, List.cons_append, guards_cons (by decide) (by decide),
        guards_text_append isName, inductionHypothesis namedLater]
      rfl

theorem flatMap_congr {clauses : List TextClause} {cut otherCut : TextClause → List (List Char)}
    (same : ∀ clause ∈ clauses, cut clause = otherCut clause) :
    clauses.flatMap cut = clauses.flatMap otherCut := by
  rw [List.flatMap_def, List.flatMap_def, List.map_congr_left same]

theorem words_flatMap {clauses : List TextClause}
    (named : ∀ clause ∈ clauses, IsName clause.field) :
    words (clauses.flatMap fun clause => ' ' :: clause.text.toList) =
      [] :: clauses.flatMap shards := by
  have divided : divides (' ', false) = true := by decide +kernel
  have split := splitOnP_append_flatMap divided [] (clauses.map guarded)
  rw [List.nil_append, List.splitOnP_nil] at split
  unfold words
  rw [guards_flatMap named, split, List.map_append, List.flatMap_map, List.map_flatMap,
    flatMap_congr fun clause membership => shards_eq (named clause membership)]
  rfl

/-! ## How many words there are -/

@[simp]
theorem countP_isBlank_escapeWith (value : List Char) :
    (escapeWith isReserved value).countP Text.isBlank = value.countP Text.isBlank := by
  induction value with
  | nil => rfl
  | cons c value inductionHypothesis =>
      have backslash : Text.isBlank '\\' = false := by decide +kernel
      unfold escapeWith
      split <;> simp [List.countP_cons, inductionHypothesis, backslash]

/-- All blanks of a clause are in its value. -/
theorem countP_isBlank_text (isName : IsName clause.field) :
    clause.text.toList.countP Text.isBlank = clause.value.toList.countP Text.isBlank := by
  have front : clause.front.countP Text.isBlank = 0 :=
    List.countP_eq_zero.mpr fun c membership => by
      rw [isBlank_of_mem_front isName membership]
      exact Bool.false_ne_true
  have mark : Text.isBlank clause.operator.mark = false :=
    isBlank_of_isReserved clause.operator.isReserved_mark
  rw [toList_text_eq]
  simp [front, mark]

theorem length_shards (isName : IsName clause.field) :
    clause.shards.length = clause.breaks + 1 := by
  unfold shards breaks
  split
  next => rfl
  next => rw [length_splitOnP, countP_isBlank_text isName]

theorem shards_of_breaks_eq_zero (isName : IsName clause.field) (unbroken : clause.breaks = 0) :
    clause.shards = [clause.text.toList] := by
  unfold breaks at unbroken
  unfold shards
  split
  next => rfl
  next unquoted =>
    rw [if_neg unquoted, ← countP_isBlank_text isName, List.countP_eq_zero] at unbroken
    exact List.splitOnP_eq_singleton fun c membership =>
      Bool.eq_false_iff.mpr (unbroken c membership)

theorem length_flatMap_shards {clauses : List TextClause}
    (named : ∀ clause ∈ clauses, IsName clause.field) :
    (clauses.flatMap shards).length = clauses.length + (clauses.map breaks).sum := by
  induction clauses with
  | nil => rfl
  | cons clause clauses inductionHypothesis =>
      obtain ⟨isName, namedLater⟩ := List.forall_mem_cons.mp named
      rw [List.flatMap_cons, List.length_append, length_shards isName,
        inductionHypothesis namedLater, List.length_cons, List.map_cons, List.sum_cons]
      omega

/-- Clauses stay whole exactly when nothing divides any of them. -/
theorem flatMap_shards_eq_iff {clauses : List TextClause}
    (named : ∀ clause ∈ clauses, IsName clause.field) :
    clauses.flatMap shards = clauses.map (·.text.toList) ↔
      ∀ clause ∈ clauses, clause.breaks = 0 := by
  constructor
  · intro whole
    have count := congrArg List.length whole
    rw [length_flatMap_shards named, List.length_map, Nat.add_eq_left,
      List.sum_eq_zero_iff_forall_eq_nat] at count
    exact fun clause membership => count clause.breaks (List.mem_map_of_mem membership)
  · intro unbroken
    rw [List.map_eq_flatMap]
    exact flatMap_congr fun clause membership =>
      shards_of_breaks_eq_zero (named clause membership) (unbroken clause membership)

/-- The filters' part of an expression falls into the words of the clauses, one clause after the
other.  Each blank of a value that is not quoted makes one word more, so that each clause is one
word exactly when all values with blanks are quoted. -/
theorem words_filterPart (registry : Registry)
    (named : ∀ field ∈ registry.fields, IsName field.engineField) (rows : List TextRow) :
    let clauses := rows.filterMap (TextRow.clause? registry)
    let part := (filterPart ⟨rows.filterMap (Form.textFilter? registry)⟩).toList
    words part = [] :: clauses.flatMap shards ∧
      (words part).length = 1 + clauses.length + (clauses.map breaks).sum ∧
      (words part = [] :: clauses.map (·.text.toList) ↔
        ∀ clause ∈ clauses, clause.breaks = 0) := by
  intro clauses part
  have allNamed : ∀ clause ∈ clauses, IsName clause.field := forall_named named rows
  have written : part = clauses.flatMap fun clause => ' ' :: clause.text.toList := by
    unfold part
    rw [toList_filterPart, fragments_textFilters, List.flatMap_map]
  have fallen : words part = [] :: clauses.flatMap shards := by
    rw [written]
    exact words_flatMap allNamed
  refine ⟨fallen, ?_, ?_⟩
  · rw [fallen, List.length_cons, length_flatMap_shards allNamed]
    omega
  · rw [fallen, ← flatMap_shards_eq_iff allNamed]
    exact List.cons_inj_right _

theorem named_default : ∀ field ∈ Registry.default.fields, IsName field.engineField := by
  decide +kernel

/-- Inputs with two blanks in a value, without a field, with blanks and a quote between quotes, and
with one word. -/
def spacedRows : List TextRow :=
  [⟨"Nome do Contribuinte", " Acme  Ltda ", .contains⟩, ⟨"Observações", "x y", .contains⟩,
    ⟨"Nr Processo", "a \" b", .equals⟩, ⟨"Tributo ACT", "IRPF", .notContains⟩]

theorem words_filterPart_spacedRows :
    let part := (filterPart ⟨spacedRows.filterMap (Form.textFilter? .default)⟩).toList
    (∀ field ∈ Registry.default.fields, IsName field.engineField) ∧
      words part =
        ["", "nome_contribuinte_s:*Acme", "", "Ltda*", "processo_s:\"a \\\" b\"",
          "-tributo_act_s:*IRPF*"].map String.toList ∧
      (words part).length = 1 + 3 + 2 := by
  intro part
  have clauses : spacedRows.filterMap (TextRow.clause? .default) =
      [⟨"nome_contribuinte_s", .contains, "Acme  Ltda"⟩, ⟨"processo_s", .equals, "a \" b"⟩,
        ⟨"tributo_act_s", .notContains, "IRPF"⟩] := by decide +kernel
  obtain ⟨fallen, count, -⟩ := words_filterPart .default named_default spacedRows
  rw [clauses] at fallen count
  exact ⟨named_default, fallen.trans (by decide +kernel), count.trans (by decide +kernel)⟩

/-- A value of two words makes two words of its clause, and the second has no field. -/
theorem not_single_word_acmeLtda :
    let rows : List TextRow := [⟨"Nome do Contribuinte", "Acme Ltda", .contains⟩]
    let filters : FilterSet := ⟨rows.filterMap (Form.textFilter? .default)⟩
    (∀ field ∈ Registry.default.fields, IsName field.engineField) ∧
      filters.fragments = ["nome_contribuinte_s:*Acme Ltda*"] ∧
      words (filterPart filters).toList =
        ["", "nome_contribuinte_s:*Acme", "Ltda*"].map String.toList ∧
      words (filterPart filters).toList ≠ [] :: filters.fragments.map String.toList :=
  ⟨named_default, by decide +kernel, by decide +kernel, by decide +kernel⟩

end TextClause

end FacetedSearch
