import FacetedSearch.Proofs.Query.Escape
import FacetedSearch.Query
import FacetedSearch.Registry.Default

/-!
# Facet groups can be read back

Values of facets are arbitrary texts, so a value may hold quotes, backslashes, parentheses and whole
clauses.  `readGroups?` reads the groups of an expression back: it splits the text at the quotes
that no backslash escapes, finds the names of the fields in the pieces outside the quotes, and takes
the escapes from those inside.  It gets back exactly the fields and values that were written, so two
selections never share an expression.
-/

namespace FacetedSearch.Query

/-- The characters of names of engine fields. -/
def isNameChar (c : Char) : Bool :=
  c.isAlphanum || c == '_'

/-- A text in the characters of names, of which there may be none. -/
def IsName (name : String) : Prop :=
  name.toList.all isNameChar = true

instance (name : String) : Decidable (IsName name) :=
  inferInstanceAs (Decidable (_ = true))

/-- The field that a piece names, if the piece consists of `lead`, a name and a colon. -/
def fieldBehind? (lead piece : List Char) : Option String :=
  let name := String.ofList ((piece.drop lead.length).dropLast)
  if piece = lead ++ name.toList ++ [':'] ∧ IsName name then some name else none

/-- Reads the pieces behind the first value of a field, of which `values` have been read. -/
def readBehind? (field : String) (values : List String) :
    List (List Char) → Option (List (String × List String))
  | [] => none
  | [piece] => if piece = [')'] then some [(field, values)] else none
  | piece :: phrase :: rest =>
      let value := String.ofList (unescape phrase)
      match fieldBehind? " OR ".toList piece, fieldBehind? ") AND (".toList piece with
      | some again, _ =>
          if again = field then readBehind? field (values ++ [value]) rest else none
      | none, some next => (readBehind? next [value] rest).map ((field, values) :: ·)
      | none, none => none

/-- The fields and values that groups stand for. -/
def readGroups? (groups : String) : Option (List (String × List String)) :=
  match pieces groups.toList with
  | piece :: phrase :: rest => do
      let field ← fieldBehind? "(".toList piece
      readBehind? field [String.ofList (unescape phrase)] rest
  | _ => none

/-! ## The text that is written -/

/-- The quoted values of a field behind the first. -/
def moreClauses (field : String) (values : List String) : List Char :=
  values.flatMap fun value => " OR ".toList ++ (facetClause field value).toList

/-- The groups behind the first. -/
def moreGroups (groups : List (String × List String)) : List Char :=
  groups.flatMap fun group => " AND ".toList ++ (facetGroup group.1 group.2).toList

theorem intercalate_cons (separator first : String) (rest : List String) :
    (separator.intercalate (first :: rest)).toList =
      first.toList ++ rest.flatMap fun text => separator.toList ++ text.toList := by
  induction rest generalizing first with
  | nil => simp
  | cons second rest inductionHypothesis =>
      rw [String.intercalate_cons_cons, String.toList_append, inductionHypothesis]
      simp

theorem toList_facetGroup (field value : String) (values : List String) :
    (facetGroup field (value :: values)).toList =
      '(' :: (facetClause field value).toList ++ moreClauses field values ++ [')'] := by
  unfold facetGroup moreClauses
  rw [List.map_cons, String.toList_append, String.toList_append, intercalate_cons,
    List.flatMap_map]
  simp

theorem toList_facetClause (field value : String) :
    (facetClause field value).toList =
      field.toList ++ ':' :: '"' :: escapeWith isPhraseSpecial value.toList ++ ['"'] := by
  simp [facetClause, escapePhrase]

/-! ## Reading -/

theorem ne_of_isNameChar {c : Char} (inName : isNameChar c = true) : c ≠ '"' ∧ c ≠ '\\' := by
  constructor <;> rintro rfl <;> cases inName

/-- No quote and no backslash stands in front of a phrase. -/
theorem IsName.plain {name : String} (isName : IsName name) {lead : List Char}
    (leads : ∀ c ∈ lead, c ≠ '"' ∧ c ≠ '\\') :
    ∀ c ∈ lead ++ name.toList ++ [':'], c ≠ '"' ∧ c ≠ '\\' := by
  intro c membership
  rcases List.mem_append.mp membership with front | colon
  · rcases List.mem_append.mp front with inLead | inName
    · exact leads c inLead
    · exact ne_of_isNameChar (List.all_eq_true.mp isName c inName)
  · obtain rfl := List.mem_singleton.mp colon
    decide

theorem fieldBehind?_append {name : String} (isName : IsName name) (lead : List Char) :
    fieldBehind? lead (lead ++ name.toList ++ [':']) = some name := by
  have found : String.ofList (((lead ++ name.toList ++ [':']).drop lead.length).dropLast) =
      name := by
    rw [List.append_assoc, List.drop_left, List.dropLast_concat, String.ofList_toList]
  unfold fieldBehind?
  rw [found]
  exact if_pos ⟨rfl, isName⟩

/-- A piece that closes a group does not continue one. -/
theorem fieldBehind?_of_closing (rest : List Char) :
    fieldBehind? " OR ".toList (") AND (".toList ++ rest) = none := by
  unfold fieldBehind?
  apply if_neg
  rintro ⟨same, _⟩
  simp at same

theorem readBehind?_another {field : String} (isName : IsName field) (values : List String)
    (phrase : List Char) (rest : List (List Char)) :
    readBehind? field values ((" OR ".toList ++ field.toList ++ [':']) :: phrase :: rest) =
      readBehind? field (values ++ [String.ofList (unescape phrase)]) rest := by
  simp only [readBehind?, fieldBehind?_append isName, if_true]

theorem readBehind?_next {next : String} (isName : IsName next) (field : String)
    (values : List String) (phrase : List Char) (rest : List (List Char)) :
    readBehind? field values ((") AND (".toList ++ next.toList ++ [':']) :: phrase :: rest) =
      (readBehind? next [String.ofList (unescape phrase)] rest).map ((field, values) :: ·) := by
  have closing := fieldBehind?_of_closing (next.toList ++ [':'])
  rw [← List.append_assoc] at closing
  simp only [readBehind?, fieldBehind?_append isName, closing]

theorem pieces_clause {field : String} (isName : IsName field) {lead : List Char}
    (leads : ∀ c ∈ lead, c ≠ '"' ∧ c ≠ '\\') (value : String) (rest : List Char) :
    pieces (lead ++ (facetClause field value).toList ++ rest) =
      (lead ++ field.toList ++ [':']) :: escapeWith isPhraseSpecial value.toList ::
        pieces rest := by
  have quoted := pieces_quoted (isName.plain leads) value.toList rest
  rw [toList_facetClause, ← quoted]
  simp

@[simp]
theorem unescape_phrase (value : String) :
    String.ofList (unescape (escapeWith isPhraseSpecial value.toList)) = value := by
  rw [unescape_escapeWith rfl, String.ofList_toList]

/-- All further values of a field are read as its values. -/
theorem readBehind?_moreClauses {field : String} (isName : IsName field)
    (values more : List String) (rest : List Char) :
    readBehind? field values (pieces (moreClauses field more ++ rest)) =
      readBehind? field (values ++ more) (pieces rest) := by
  induction more generalizing values with
  | nil => rw [moreClauses, List.flatMap_nil, List.nil_append, List.append_nil]
  | cons value more inductionHypothesis =>
      have written : moreClauses field (value :: more) ++ rest =
          " OR ".toList ++ (facetClause field value).toList ++
            (moreClauses field more ++ rest) := by
        rw [moreClauses, List.flatMap_cons, List.append_assoc]
        rfl
      rw [written, pieces_clause isName (by simp), readBehind?_another isName, unescape_phrase,
        inductionHypothesis, List.append_assoc, List.singleton_append]

/-- Behind the last value of a field, all further fields are read. -/
theorem readBehind?_moreGroups (field : String) (values : List String)
    {groups : List (String × List String)} (filled : ∀ group ∈ groups, group.2 ≠ [])
    (named : ∀ group ∈ groups, IsName group.1) :
    readBehind? field values (pieces (')' :: moreGroups groups)) =
      some ((field, values) :: groups) := by
  induction groups generalizing field values with
  | nil => rfl
  | cons group groups inductionHypothesis =>
      obtain ⟨next, nextValues⟩ := group
      obtain ⟨isName, namedLater⟩ := List.forall_mem_cons.mp named
      obtain ⟨filledNow, filledLater⟩ := List.forall_mem_cons.mp filled
      cases nextValues with
      | nil => exact absurd rfl filledNow
      | cons value more =>
          have written : ')' :: moreGroups ((next, value :: more) :: groups) =
              ") AND (".toList ++ (facetClause next value).toList ++
                (moreClauses next more ++ ')' :: moreGroups groups) := by
            rw [moreGroups, List.flatMap_cons, toList_facetGroup, moreGroups]
            simp
          rw [written, pieces_clause isName (by simp), readBehind?_next isName, unescape_phrase,
            readBehind?_moreClauses isName, inductionHypothesis _ _ filledLater namedLater]
          rfl

/-- What is written for some fields with names and values is read back. -/
theorem readGroups?_intercalate {groups : List (String × List String)} (nonempty : groups ≠ [])
    (filled : ∀ group ∈ groups, group.2 ≠ []) (named : ∀ group ∈ groups, IsName group.1) :
    readGroups? (" AND ".intercalate (groups.map fun group => facetGroup group.1 group.2)) =
      some groups := by
  cases groups with
  | nil => exact absurd rfl nonempty
  | cons group groups =>
      obtain ⟨field, values⟩ := group
      obtain ⟨isName, namedLater⟩ := List.forall_mem_cons.mp named
      obtain ⟨filledNow, filledLater⟩ := List.forall_mem_cons.mp filled
      cases values with
      | nil => exact absurd rfl filledNow
      | cons value more =>
          have written :
              (" AND ".intercalate (((field, value :: more) :: groups).map fun group =>
                facetGroup group.1 group.2)).toList =
              "(".toList ++ (facetClause field value).toList ++
                (moreClauses field more ++ ')' :: moreGroups groups) := by
            rw [List.map_cons, intercalate_cons, toList_facetGroup, List.flatMap_map, moreGroups]
            simp
          unfold readGroups?
          rw [written, pieces_clause isName (by simp)]
          simp only [fieldBehind?_append isName, Option.bind_eq_bind, Option.bind_some,
            unescape_phrase]
          rw [readBehind?_moreClauses isName, readBehind?_moreGroups _ _ filledLater namedLater]
          rfl

/-! ## Selections -/

theorem chosen_eq {facets : Selection} (wellFormed : facets.WellFormed) :
    (facets.fields.entries.filter fun entry => !entry.2.isEmpty) = facets.fields.entries := by
  apply List.filter_eq_self.mpr
  intro entry membership
  rw [Bool.not_eq_true', List.isEmpty_eq_false_iff]
  exact (wellFormed entry membership).1

theorem facetGroups?_eq_none_iff {facets : Selection} (wellFormed : facets.WellFormed) :
    facetGroups? facets = none ↔ facets = .empty := by
  unfold facetGroups?
  rw [chosen_eq wellFormed]
  obtain ⟨⟨entries, -⟩⟩ := facets
  cases entries with
  | nil => exact ⟨fun _ => rfl, fun _ => rfl⟩
  | cons entry rest =>
      constructor
      · intro absent
        cases absent
      · intro same
        cases same

theorem readGroups?_of_facetGroups? {facets : Selection} {groups : String}
    (wellFormed : facets.WellFormed) (named : ∀ entry ∈ facets.fields.entries, IsName entry.1)
    (written : facetGroups? facets = some groups) :
    readGroups? groups = some facets.fields.entries := by
  have nonempty : facets.fields.entries ≠ [] := by
    intro unselected
    have absent := (facetGroups?_eq_none_iff wellFormed).mpr
      (congrArg Selection.mk (Table.ext unselected))
    rw [absent] at written
    cases written
  unfold facetGroups? at written
  rw [chosen_eq wellFormed] at written
  simp only [List.isEmpty_eq_false_iff.mpr nonempty, Bool.false_eq_true, if_false] at written
  obtain rfl := Option.some.inj written
  exact readGroups?_intercalate nonempty
    (fun entry membership => (wellFormed entry membership).1) named

/-- Well-formed selections whose fields are names have the same groups only if they are the same, in
the same order. -/
theorem facetGroups?_inj {facets others : Selection} (wellFormed : facets.WellFormed)
    (othersWellFormed : others.WellFormed) (named : ∀ field ∈ facets.fields.keys, IsName field)
    (othersNamed : ∀ field ∈ others.fields.keys, IsName field)
    (same : facetGroups? facets = facetGroups? others) : facets = others := by
  cases written : facetGroups? facets with
  | none =>
      have othersWritten := same.symm.trans written
      rw [(facetGroups?_eq_none_iff wellFormed).mp written,
        (facetGroups?_eq_none_iff othersWellFormed).mp othersWritten]
  | some groups =>
      have othersWritten := same.symm.trans written
      have read := readGroups?_of_facetGroups? wellFormed (List.forall_mem_map.mp named) written
      have othersRead :=
        readGroups?_of_facetGroups? othersWellFormed (List.forall_mem_map.mp othersNamed)
          othersWritten
      have sameEntries := Option.some.inj (read.symm.trans othersRead)
      exact congrArg Selection.mk (Table.ext sameEntries)

theorem facetGroups?_eq_of_facetPart_eq {first second : Selection}
    (same : facetPart first = facetPart second) : facetGroups? first = facetGroups? second := by
  unfold facetPart at same
  cases firstGroups : facetGroups? first <;> cases secondGroups : facetGroups? second <;>
    simp_all [String.ext_iff]

theorem facetGroups?_eq_of_compile_eq {facets others : Selection} {freeText : String}
    {filters : FilterSet}
    (same : compile ⟨freeText, filters, facets⟩ = compile ⟨freeText, filters, others⟩) :
    facetGroups? facets = facetGroups? others :=
  facetGroups?_eq_of_facetPart_eq ((String.append_right_inj _).mp (congrArg Expression.text same))

/-- The groups of a selection whose fields are names are read back by one reader, and there are none
only when nothing is selected.  So, behind the same free text and filters, two such selections give
the same expression only if they hold the same fields and values in the same order. -/
theorem readGroups?_facetGroups? (facets : Selection) (wellFormed : facets.WellFormed)
    (named : ∀ entry ∈ facets.fields.entries, IsName entry.1) :
    (∀ groups, facetGroups? facets = some groups →
      readGroups? groups = some facets.fields.entries) ∧
    (facetGroups? facets = none ↔ facets = .empty) ∧
    ∀ other : Selection, other.WellFormed → (∀ entry ∈ other.fields.entries, IsName entry.1) →
      ∀ freeText filters,
        compile ⟨freeText, filters, facets⟩ = compile ⟨freeText, filters, other⟩ →
          facets = other := by
  refine ⟨fun groups => readGroups?_of_facetGroups? wellFormed named,
    facetGroups?_eq_none_iff wellFormed, ?_⟩
  intro other otherWellFormed otherNamed freeText filters same
  exact facetGroups?_inj wellFormed otherWellFormed (List.forall_mem_map.mpr named)
    (List.forall_mem_map.mpr otherNamed) (facetGroups?_eq_of_compile_eq same)

/-- A selection of two values: one looks like the end of a phrase with another clause behind it, and
one is a backslash. -/
def forgingSelection : Selection :=
  ⟨⟨[("situacao_s", ["Aberto\" OR situacao_s:\"Julgado", "\\"])], by decide⟩⟩

/-- The selection that the first of these values looks like. -/
def forgedSelection : Selection :=
  ⟨⟨[("situacao_s", ["Aberto", "Julgado", "\\"])], by decide⟩⟩

theorem readGroups?_facetGroups?_forgingSelection :
    (∀ field ∈ Registry.default.fields, IsName field.engineField) ∧
      (∀ facet ∈ Registry.default.facets, IsName facet.field) ∧
      forgingSelection.WellFormed ∧ forgedSelection.WellFormed ∧
      facetGroups? forgingSelection =
        some "(situacao_s:\"Aberto\\\" OR situacao_s:\\\"Julgado\" OR situacao_s:\"\\\\\")" ∧
      readGroups?
          "(situacao_s:\"Aberto\\\" OR situacao_s:\\\"Julgado\" OR situacao_s:\"\\\\\")" =
        some forgingSelection.fields.entries ∧
      compile ⟨"", .empty, forgingSelection⟩ ≠ compile ⟨"", .empty, forgedSelection⟩ := by
  have wellFormed : forgingSelection.WellFormed := by decide
  have forgedWellFormed : forgedSelection.WellFormed := by decide
  have named : ∀ entry ∈ forgingSelection.fields.entries, IsName entry.1 := by decide +kernel
  have forgedNamed : ∀ entry ∈ forgedSelection.fields.entries, IsName entry.1 := by decide +kernel
  have written : facetGroups? forgingSelection =
      some "(situacao_s:\"Aberto\\\" OR situacao_s:\\\"Julgado\" OR situacao_s:\"\\\\\")" := by
    decide +kernel
  have recovered := readGroups?_facetGroups? forgingSelection wellFormed named
  refine ⟨by decide +kernel, by decide +kernel, wellFormed, forgedWellFormed, written,
    recovered.1 _ written, ?_⟩
  intro same
  have equal := recovered.2.2 forgedSelection forgedWellFormed forgedNamed "" .empty same
  exact absurd equal (by decide +kernel)

end FacetedSearch.Query
