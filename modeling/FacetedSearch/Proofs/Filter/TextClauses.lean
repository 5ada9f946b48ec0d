import FacetedSearch.Form
import FacetedSearch.Proofs.Query.FacetGroups

/-!
# Text clauses can be read back

The clauses of text filters stand behind each other with nothing but a space between them, and their
values are arbitrary texts, with spaces, quotes, stars and whole clauses in them.  A reader still
finds where each clause ends: it reads the name of the field up to the colon, sees from the sign
behind it which mark ends the value, and looks for the first such mark that no backslash escapes.
Every reserved character of a value is escaped, so this is the mark that was written, and the only
characters with a meaning in the text are the signs around the names and values.
-/

namespace FacetedSearch

open Query

structure TextClause where
  field : String
  operator : Operator
  value : String
deriving DecidableEq

/-- The clause of a text input; there is none for blanks, or for a label without a field. -/
def TextRow.clause? (registry : Registry) (row : TextRow) : Option TextClause := do
  let value ← Text.filled? row.value
  let field ← registry.text? (normalizeLabel row.label)
  return ⟨field.engineField, row.operator, value⟩

namespace Operator

def denies : Operator → Bool
  | .notContains => true
  | _ => false

/-- The sign at both ends of a value. -/
def mark : Operator → Char
  | .equals => '"'
  | _ => '*'

/-- The sign in front of a field. -/
def lead (operator : Operator) : List Char :=
  if operator.denies then ['-'] else []

def signs (operator : Operator) : List Char :=
  operator.lead ++ [':', operator.mark, operator.mark]

def ofSigns? (denied : Bool) (mark : Char) : Option Operator :=
  all.find? fun operator => operator.denies == denied && operator.mark == mark

@[simp]
theorem ofSigns?_signs (operator : Operator) :
    ofSigns? operator.denies operator.mark = some operator := by
  cases operator <;> rfl

@[simp]
theorem isReserved_mark (operator : Operator) : isReserved operator.mark = true := by
  cases operator <;> rfl

theorem mark_ne_backslash (operator : Operator) : operator.mark ≠ '\\' := by
  cases operator <;> decide

theorem backslash_notMem_lead (operator : Operator) : '\\' ∉ operator.lead := by
  cases operator <;> decide

@[simp]
theorem filter_isReserved_lead (operator : Operator) :
    operator.lead.filter isReserved = operator.lead := by
  cases operator <;> rfl

end Operator

namespace TextClause

def criterion (clause : TextClause) : TextCriterion :=
  ⟨clause.field, clause.operator, clause.value, escapeLiteral clause.value⟩

def text (clause : TextClause) : String :=
  clause.criterion.fragment

/-- Whether a text denies what follows, and what follows. -/
def splitLead : List Char → Bool × List Char
  | '-' :: rest => (true, rest)
  | text => (false, text)

/-- Reads a clause at the start of a text. -/
def read? (text : List Char) : Option (TextClause × List Char) :=
  let (denied, named) := splitLead text
  let name := String.ofList (named.takeWhile isNameChar)
  match named.dropWhile isNameChar with
  | ':' :: mark :: marked => do
      let operator ← Operator.ofSigns? denied mark
      let (value, rest) ← upTo? mark marked
      return (⟨name, operator, String.ofList value⟩, rest)
  | _ => none

theorem length_splitLead_le (text : List Char) : (splitLead text).2.length ≤ text.length := by
  unfold splitLead
  split
  next => exact Nat.le_succ _
  next => exact Nat.le_refl _

theorem length_lt_of_read? {text rest : List Char} {clause : TextClause}
    (found : read? text = some (clause, rest)) : rest.length < text.length := by
  have lead := length_splitLead_le text
  have name := ((splitLead text).2.dropWhile_sublist isNameChar).length_le
  unfold read? at found
  simp only at found
  split at found
  next mark marked split =>
    obtain ⟨operator, -, continued⟩ := Option.bind_eq_some_iff.mp found
    obtain ⟨⟨value, behind⟩, closed, same⟩ := Option.bind_eq_some_iff.mp continued
    obtain rfl : behind = rest := congrArg Prod.snd (Option.some.inj same)
    have shorter := length_lt_of_upTo? closed
    rw [split] at name
    simp only [List.length_cons] at name
    omega
  next => cases found

/-- Reads clauses that each stand behind a space. -/
def readSpaced? : List Char → Option (List TextClause)
  | [] => some []
  | ' ' :: text =>
      match _ : read? text with
      | some (clause, rest) => (readSpaced? rest).map (clause :: ·)
      | none => none
  | _ => none
termination_by text => text.length
decreasing_by exact Nat.lt_succ_of_lt (length_lt_of_read? ‹_›)

/-- Reads clauses with a space between each and the next. -/
def readJoined? (joined : String) : Option (List TextClause) :=
  if joined.isEmpty then some [] else readSpaced? (' ' :: joined.toList)

/-! ## The text that is written -/

theorem toList_text (clause : TextClause) :
    clause.text.toList =
      clause.operator.lead ++ (clause.field.toList ++
        ':' :: clause.operator.mark ::
          (escapeWith isReserved clause.value.toList ++ [clause.operator.mark])) := by
  obtain ⟨field, operator, value⟩ := clause
  cases operator <;>
    simp [text, criterion, TextCriterion.fragment, Operator.lead, Operator.denies, Operator.mark,
      escapeLiteral]

theorem criterion_of_textFilter? {registry : Registry} {row : TextRow} :
    (Form.textFilter? registry row).bind (·.criterion) =
      (row.clause? registry).map fun clause => .text clause.criterion := by
  unfold Form.textFilter? Filter.ofText? TextRow.clause?
  cases Text.filled? row.value with
  | none => rfl
  | some value =>
      cases found : registry.text? (normalizeLabel row.label) <;> simp [found, criterion]

theorem criteria_textFilters (registry : Registry) (rows : List TextRow) :
    (rows.filterMap (Form.textFilter? registry)).filterMap (·.criterion) =
      (rows.filterMap (TextRow.clause? registry)).map fun clause => .text clause.criterion := by
  rw [List.filterMap_filterMap, List.map_filterMap]
  exact congrArg (rows.filterMap ·) (funext fun _ => criterion_of_textFilter?)

theorem fragments_textFilters (registry : Registry) (rows : List TextRow) :
    FilterSet.fragments ⟨rows.filterMap (Form.textFilter? registry)⟩ =
      (rows.filterMap (TextRow.clause? registry)).map text := by
  have criteria := congrArg (List.map Criterion.fragment) (criteria_textFilters registry rows)
  rw [List.map_filterMap, List.map_map] at criteria
  exact criteria

theorem forall_named {registry : Registry}
    (named : ∀ field ∈ registry.fields, IsName field.engineField) (rows : List TextRow) :
    ∀ clause ∈ rows.filterMap (TextRow.clause? registry), IsName clause.field := by
  intro clause membership
  obtain ⟨row, -, asked⟩ := List.mem_filterMap.mp membership
  obtain ⟨value, -, continued⟩ := Option.bind_eq_some_iff.mp asked
  obtain ⟨field, found, same⟩ := Option.bind_eq_some_iff.mp continued
  obtain rfl := Option.some.inj same
  have registered := List.mem_of_find?_eq_some found
  exact named field (List.mem_filter.mp registered).1

/-! ## Reading -/

theorem splitLead_append (operator : Operator) {name : String} (isName : IsName name)
    (rest : List Char) :
    splitLead (operator.lead ++ (name.toList ++ ':' :: rest)) =
      (operator.denies, name.toList ++ ':' :: rest) := by
  cases chars : name.toList with
  | nil => cases operator <;> rfl
  | cons first more =>
      have inName : isNameChar first = true :=
        List.all_eq_true.mp isName first (chars ▸ List.mem_cons_self)
      have noMinus : first ≠ '-' := by
        rintro rfl
        cases inName
      cases operator with
      | notContains => rfl
      | contains | equals => simp [Operator.lead, Operator.denies, splitLead, noMinus]

/-- A clause is read back, whatever stands behind it. -/
theorem read?_append {clause : TextClause} (isName : IsName clause.field) (rest : List Char) :
    read? (clause.text.toList ++ rest) = some (clause, rest) := by
  have named := List.all_eq_true.mp isName
  have colon : isNameChar ':' = false := rfl
  have written : clause.text.toList ++ rest =
      clause.operator.lead ++ (clause.field.toList ++
        ':' :: clause.operator.mark ::
          (escapeWith isReserved clause.value.toList ++ clause.operator.mark :: rest)) := by
    rw [toList_text]
    simp
  have backslash : isReserved '\\' = true := rfl
  have closed := upTo?_escapeWith_append backslash clause.operator.isReserved_mark
    clause.operator.mark_ne_backslash clause.value.toList rest
  unfold read?
  rw [written, splitLead_append clause.operator isName]
  simp only [List.takeWhile_append_of_pos named, List.dropWhile_append_of_pos named,
    List.takeWhile_cons, List.dropWhile_cons, colon, Bool.false_eq_true, if_false,
    List.append_nil, Operator.ofSigns?_signs, closed, Option.bind_eq_bind, Option.bind_some,
    String.ofList_toList]
  rfl

theorem readSpaced?_cons {clause : TextClause} (isName : IsName clause.field)
    (rest : List Char) :
    readSpaced? (' ' :: (clause.text.toList ++ rest)) =
      (readSpaced? rest).map (clause :: ·) := by
  rw [readSpaced?]
  split
  next found =>
    rw [read?_append isName] at found
    obtain ⟨rfl, rfl⟩ := Prod.mk.inj (Option.some.inj found)
    rfl
  next found =>
    rw [read?_append isName] at found
    cases found

theorem readSpaced?_flatMap {clauses : List TextClause}
    (named : ∀ clause ∈ clauses, IsName clause.field) :
    readSpaced? (clauses.flatMap fun clause => ' ' :: clause.text.toList) = some clauses := by
  induction clauses with
  | nil => rw [List.flatMap_nil, readSpaced?]
  | cons clause clauses inductionHypothesis =>
      obtain ⟨isName, namedLater⟩ := List.forall_mem_cons.mp named
      rw [List.flatMap_cons, List.cons_append, readSpaced?_cons isName,
        inductionHypothesis namedLater]
      rfl

theorem toList_intercalate (clause : TextClause) (clauses : List TextClause) :
    (" ".intercalate ((clause :: clauses).map text)).toList =
      clause.text.toList ++ clauses.flatMap fun other => ' ' :: other.text.toList := by
  rw [List.map_cons, intercalate_cons, List.flatMap_map]
  rfl

theorem readJoined?_intercalate {clauses : List TextClause}
    (named : ∀ clause ∈ clauses, IsName clause.field) :
    readJoined? (" ".intercalate (clauses.map text)) = some clauses := by
  cases clauses with
  | nil => rfl
  | cons clause clauses =>
      have written := toList_intercalate clause clauses
      have nonempty : (" ".intercalate ((clause :: clauses).map text)).isEmpty = false := by
        rw [← Bool.not_eq_true, String.isEmpty_iff, ← String.toList_eq_nil_iff, written,
          toList_text]
        simp
      unfold readJoined?
      rw [nonempty, written]
      exact readSpaced?_flatMap named

/-! ## Signs -/

theorem isReserved_of_isNameChar {c : Char} (inName : isNameChar c = true) :
    isReserved c = false := by
  have unnamed : (reservedChars.any isNameChar) = false := by decide
  rw [List.any_eq_false] at unnamed
  rw [← Bool.not_eq_true]
  exact fun reserved => unnamed c (List.contains_iff_mem.mp reserved) inName

theorem filter_isReserved_name {name : String} (isName : IsName name) :
    name.toList.filter isReserved = [] := by
  rw [List.filter_eq_nil_iff]
  intro c membership
  rw [isReserved_of_isNameChar (List.all_eq_true.mp isName c membership)]
  exact Bool.false_ne_true

@[simp]
theorem filter_isReserved_unreserved (text : List Char) :
    (text.filter (!isReserved ·)).filter isReserved = [] := by
  rw [List.filter_filter, List.filter_eq_nil_iff]
  intro c _
  cases isReserved c <;> decide

/-- The characters of a clause that have a meaning are its signs; its value has none. -/
theorem signs_append {clause : TextClause} (isName : IsName clause.field) (rest : List Char) :
    (bare (clause.text.toList ++ rest)).filter isReserved =
      clause.operator.signs ++ (bare rest).filter isReserved := by
  have named := List.all_eq_true.mp isName
  have plainName : ∀ c ∈ clause.field.toList, c ≠ '\\' :=
    fun c membership => (ne_of_isNameChar (named c membership)).2
  have plainLead : ∀ c ∈ clause.operator.lead, c ≠ '\\' :=
    fun c membership same => clause.operator.backslash_notMem_lead (same ▸ membership)
  have plainMark := clause.operator.mark_ne_backslash
  have colon : isReserved ':' = true := rfl
  rw [toList_text]
  simp only [List.append_assoc, List.cons_append, List.nil_append]
  rw [bare_append plainLead, bare_append plainName, bare_cons (by decide), bare_cons plainMark,
    bare_escapeWith_append rfl, bare_cons plainMark]
  -- Bare in the value are only the characters that were not escaped, and none of these is a sign.
  simp only [List.filter_append, List.filter_cons, Operator.filter_isReserved_lead,
    filter_isReserved_name isName, filter_isReserved_unreserved, colon,
    clause.operator.isReserved_mark, if_true, List.nil_append, Operator.signs, List.append_assoc,
    List.cons_append]

theorem signs_flatMap {clauses : List TextClause}
    (named : ∀ clause ∈ clauses, IsName clause.field) :
    (bare (clauses.flatMap fun clause => ' ' :: clause.text.toList)).filter isReserved =
      clauses.flatMap (·.operator.signs) := by
  induction clauses with
  | nil => rfl
  | cons clause clauses inductionHypothesis =>
      obtain ⟨isName, namedLater⟩ := List.forall_mem_cons.mp named
      rw [List.flatMap_cons, List.cons_append, bare_cons (by decide),
        List.filter_cons_of_neg (by decide), signs_append isName, inductionHypothesis namedLater]
      rfl

theorem signs_intercalate {clauses : List TextClause}
    (named : ∀ clause ∈ clauses, IsName clause.field) :
    (bare (" ".intercalate (clauses.map text)).toList).filter isReserved =
      clauses.flatMap (·.operator.signs) := by
  cases clauses with
  | nil => rfl
  | cons clause clauses =>
      obtain ⟨isName, namedLater⟩ := List.forall_mem_cons.mp named
      rw [toList_intercalate, signs_append isName, signs_flatMap namedLater]
      rfl

/-- The joined clauses of text filters are read back as field, operator and trimmed value of every
input that has a clause; no value adds a sign to those of its own clause; and two lists of filters,
of one registry or of two, have the same joined clauses only if these inputs agree one by one. -/
theorem readJoined?_fragments (registry : Registry)
    (named : ∀ field ∈ registry.fields, IsName field.engineField) (rows : List TextRow) :
    let filters := rows.filterMap (Form.textFilter? registry)
    let clauses := rows.filterMap (TextRow.clause? registry)
    let joined := " ".intercalate (FilterSet.fragments ⟨filters⟩)
    filters.filterMap (·.criterion) = clauses.map (fun clause => .text clause.criterion) ∧
    readJoined? joined = some clauses ∧
    (bare joined.toList).filter isReserved = clauses.flatMap (·.operator.signs) ∧
    ∀ (other : Registry) (otherRows : List TextRow),
      (∀ field ∈ other.fields, IsName field.engineField) →
      " ".intercalate (FilterSet.fragments ⟨otherRows.filterMap (Form.textFilter? other)⟩) =
        joined →
      otherRows.filterMap (TextRow.clause? other) = clauses := by
  intro filters clauses joined
  have allNamed : ∀ clause ∈ clauses, IsName clause.field := forall_named named rows
  have written : joined = " ".intercalate (clauses.map text) :=
    congrArg (" ".intercalate ·) (fragments_textFilters registry rows)
  have readBack : readJoined? joined = some clauses := by
    rw [written]
    exact readJoined?_intercalate allNamed
  refine ⟨criteria_textFilters registry rows, readBack, ?_, ?_⟩
  · rw [written]
    exact signs_intercalate allNamed
  · intro other otherRows otherNamed same
    have otherReadBack := readJoined?_intercalate (forall_named otherNamed otherRows)
    rw [← fragments_textFilters, same, readBack] at otherReadBack
    exact (Option.some.inj otherReadBack).symm

/-- Inputs whose values look like the end of a clause with another one behind it, or end in a
backslash, and one without a field. -/
def forgingRows : List TextRow :=
  [⟨" Título Documento (AUTO)", " a* situacao_s:*b ", .contains⟩, ⟨"Observações", "x", .contains⟩,
    ⟨"Nr Processo", "\\", .equals⟩, ⟨"Tributo ACT", "\" x", .notContains⟩]

/-- The inputs that the first of them looks like. -/
def forgedRows : List TextRow :=
  [⟨"Título Documento", "a", .contains⟩, ⟨"Situação do Documento", "b", .contains⟩,
    ⟨"Nr Processo", "\\", .equals⟩, ⟨"Tributo ACT", "\" x", .notContains⟩]

theorem readJoined?_fragments_forgingRows :
    (∀ field ∈ Registry.default.fields, IsName field.engineField) ∧
      " ".intercalate
          (FilterSet.fragments ⟨forgingRows.filterMap (Form.textFilter? .default)⟩) =
        "titulo_s:*a\\* situacao_s\\:\\*b* processo_s:\"\\\\\" -tributo_act_s:*\\\" x*" ∧
      readJoined?
          "titulo_s:*a\\* situacao_s\\:\\*b* processo_s:\"\\\\\" -tributo_act_s:*\\\" x*" =
        some [⟨"titulo_s", .contains, "a* situacao_s:*b"⟩, ⟨"processo_s", .equals, "\\"⟩,
          ⟨"tributo_act_s", .notContains, "\" x"⟩] ∧
      " ".intercalate
          (FilterSet.fragments ⟨forgedRows.filterMap (Form.textFilter? .default)⟩) ≠
        "titulo_s:*a\\* situacao_s\\:\\*b* processo_s:\"\\\\\" -tributo_act_s:*\\\" x*" := by
  have named : ∀ field ∈ Registry.default.fields, IsName field.engineField := by decide +kernel
  have written : " ".intercalate
      (FilterSet.fragments ⟨forgingRows.filterMap (Form.textFilter? .default)⟩) =
        "titulo_s:*a\\* situacao_s\\:\\*b* processo_s:\"\\\\\" -tributo_act_s:*\\\" x*" := by
    decide +kernel
  have clauses : forgingRows.filterMap (TextRow.clause? .default) =
      [⟨"titulo_s", .contains, "a* situacao_s:*b"⟩, ⟨"processo_s", .equals, "\\"⟩,
        ⟨"tributo_act_s", .notContains, "\" x"⟩] := by decide +kernel
  obtain ⟨-, readBack, -, injective⟩ := readJoined?_fragments .default named forgingRows
  rw [written, clauses] at readBack
  refine ⟨named, written, readBack, ?_⟩
  intro same
  have agreed := injective .default forgedRows named (same.trans written.symm)
  exact absurd agreed (by decide +kernel)

end TextClause

end FacetedSearch
