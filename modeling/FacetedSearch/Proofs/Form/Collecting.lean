import FacetedSearch.Form
import FacetedSearch.Proofs.Filter.Building
import FacetedSearch.Proofs.Query.Words

/-!
# The filters of a form

The form makes one filter of each row that holds something, in the order of the rows, and nothing
else.  In an expression each of these that has a criterion adds one clause behind a space; one that
is only shown adds nothing, wherever it stands.
-/

namespace FacetedSearch

open Text

def TextRow.isFilled (row : TextRow) : Bool :=
  Text.isFilled row.value

def DateRow.isFilled (row : DateRow) : Bool :=
  Text.isFilled row.lower || Text.isFilled row.upper

def ValueRow.isFilled (row : ValueRow) : Bool :=
  Text.isFilled row.lower || Text.isFilled row.upper

theorem map_some_filterMap {Row Made : Type} (make : Row → Option Made) (rows : List Row) :
    (rows.filterMap make).map some = (rows.filter fun row => (make row).isSome).map make := by
  induction rows with
  | nil => rfl
  | cons row rows inductionHypothesis =>
      cases made : make row <;> simp [made, inductionHypothesis]

namespace Form

variable {registry : Registry} {today : Calendar.Date} {filter : Filter} {criterion : Criterion}

/-! ## Rows and filters -/

@[simp]
theorem isSome_textFilter? (registry : Registry) (row : TextRow) :
    (textFilter? registry row).isSome = row.isFilled :=
  Filter.isSome_ofText? ..

@[simp]
theorem isSome_dateFilter? (registry : Registry) (today : Calendar.Date) (row : DateRow) :
    (dateFilter? registry today row).isSome = row.isFilled :=
  Filter.isSome_ofDates? ..

theorem map_some_collect (form : Form) (registry : Registry) (today : Calendar.Date) :
    (form.collect registry today).map some =
      (form.texts.filter (·.isFilled)).map (textFilter? registry) ++
        (form.dates.filter (·.isFilled)).map (dateFilter? registry today) ++
        if form.values.isFilled then
          [Filter.ofValues? registry (some form.values.lower) (some form.values.upper)]
        else [] := by
  have filled : (Filter.ofValues? registry (some form.values.lower)
      (some form.values.upper)).isSome = form.values.isFilled := Filter.isSome_ofValues? ..
  unfold collect
  rw [List.map_append, List.map_append, map_some_filterMap, map_some_filterMap, ← filled]
  simp only [isSome_textFilter?, isSome_dateFilter?]
  cases Filter.ofValues? registry (some form.values.lower) (some form.values.upper) <;> rfl

theorem isBuilt_of_mem_collect {form : Form} (collected : filter ∈ form.collect registry today)
    (asked : filter.criterion = some criterion) : criterion.IsBuilt := by
  rcases List.mem_append.mp collected with rows | value
  · rcases List.mem_append.mp rows with text | date
    · obtain ⟨row, -, made⟩ := List.mem_filterMap.mp text
      exact Filter.isBuilt_of_ofText? made asked
    · obtain ⟨row, -, made⟩ := List.mem_filterMap.mp date
      exact Filter.isBuilt_of_ofDates? made asked
  · exact Filter.isBuilt_of_ofValues? (Option.mem_toList.mp value) asked

/-- A range of days goes to the end of the day that was typed, or of the day it was made on. -/
theorem lastDay_of_dateFilter? {row : DateRow} (made : dateFilter? registry today row = some filter)
    (asked : filter.criterion = some criterion) :
    ∃ range : DateCriterion, criterion = .dateRange range ∧
      range.lastDay =
        if Text.isFilled row.upper then trimmed row.upper else String.ofList today.isoText := by
  obtain ⟨field, rfl⟩ := Filter.criterion_of_ofDates? made asked
  refine ⟨_, rfl, ?_⟩
  simp only [DateCriterion.lastDay, Option.bind_some, filled?_eq]
  split <;> rfl

end Form

/-! ## Clauses -/

namespace Query

variable {filters others : List Filter}

theorem filterPart_eq_join (filters : FilterSet) :
    filterPart filters = String.join (filters.fragments.map fun fragment => " " ++ fragment) := by
  apply String.toList_inj.mp
  rw [toList_filterPart, String.toList_join, List.flatMap_map]
  simp

theorem fragments_eq (filters : List Filter) :
    FilterSet.fragments ⟨filters⟩ = (filters.filterMap (·.criterion)).map (·.fragment) :=
  List.map_filterMap.symm

/-- The expression is the base with one clause for each criterion, and the groups of the facets. -/
theorem text_compile (freeText : String) (filters : List Filter) (facets : Selection) :
    (compile ⟨freeText, ⟨filters⟩, facets⟩).text =
      base freeText ++
        String.join ((filters.filterMap (·.criterion)).map fun criterion =>
          " " ++ criterion.fragment) ++
        facetPart facets := by
  unfold compile
  rw [filterPart_eq_join, fragments_eq, List.map_map]
  rfl

theorem criteria_filter (filters : List Filter) :
    (filters.filter fun filter => !filter.isDisplayOnly).filterMap (·.criterion) =
      filters.filterMap (·.criterion) := by
  rw [List.filterMap_filter]
  apply List.filterMap_congr
  intro filter _
  unfold Filter.isDisplayOnly
  cases filter.criterion <;> rfl

theorem compile_eq_of_asking_eq
    (same : (others.filter fun filter => !filter.isDisplayOnly) =
      filters.filter fun filter => !filter.isDisplayOnly) (freeText : String) (facets : Selection) :
    compile ⟨freeText, ⟨others⟩, facets⟩ = compile ⟨freeText, ⟨filters⟩, facets⟩ := by
  apply congrArg Expression.mk
  have texts := text_compile freeText others facets
  rw [← criteria_filter, same, criteria_filter] at texts
  exact texts.trans (text_compile freeText filters facets).symm

end Query

/-- On any day a form makes one filter of each row that holds something, text rows first, then
dates, then the value range.  Every criterion keeps what its builder promises, and a range of days
is closed by the day that was typed, or by today.  The expression of these filters has one clause
for each that has a criterion, in their order and behind a space each, and stays the same when
filters that are only shown come in or go out anywhere. -/
theorem Form.collected_and_compiled (form : Form) (registry : Registry) (today : Calendar.Date) :
    let filters := form.collect registry today
    filters.map some =
      (form.texts.filter (·.isFilled)).map (textFilter? registry) ++
        (form.dates.filter (·.isFilled)).map (dateFilter? registry today) ++
        (if form.values.isFilled then
          [Filter.ofValues? registry (some form.values.lower) (some form.values.upper)]
        else []) ∧
    (∀ filter ∈ filters, ∀ criterion, filter.criterion = some criterion → criterion.IsBuilt) ∧
    (∀ row filter criterion, dateFilter? registry today row = some filter →
      filter.criterion = some criterion →
        ∃ range : DateCriterion, criterion = .dateRange range ∧
          range.lastDay =
            (if Text.isFilled row.upper then trimmed row.upper
            else String.ofList today.isoText) ∧
          (∃ lower, criterion.fragment =
            rangeClause range.field lower (range.lastDay ++ endOfDay)) ∧
          range.lastDay ++ endOfDay ≠ openBound) ∧
    (∀ freeText facets, (Query.compile ⟨freeText, ⟨filters⟩, facets⟩).text =
      Query.base freeText ++
        String.join ((filters.filterMap (·.criterion)).map fun criterion =>
          " " ++ criterion.fragment) ++
        Query.facetPart facets) ∧
    ∀ (others : List Filter) freeText facets,
      (others.filter fun filter => !filter.isDisplayOnly) =
        (filters.filter fun filter => !filter.isDisplayOnly) →
      Query.compile ⟨freeText, ⟨others⟩, facets⟩ = Query.compile ⟨freeText, ⟨filters⟩, facets⟩ := by
  intro filters
  refine ⟨form.map_some_collect registry today,
    fun _ collected _ => isBuilt_of_mem_collect collected,
    ?_, fun freeText => Query.text_compile freeText filters, ?_⟩
  · intro row filter criterion made asked
    obtain ⟨range, rfl, closed⟩ := lastDay_of_dateFilter? made asked
    exact ⟨range, rfl, closed, ⟨_, range.fragment_eq⟩, append_endOfDay_ne_openBound _⟩
  · intro others freeText facets same
    exact Query.compile_eq_of_asking_eq same freeText facets

namespace Form

/-- A form with blank rows, a row without a field, and ranges that are open on one side. -/
def mixedForm : Form :=
  ⟨[⟨"Nome do Contribuinte", " Acme (SP) ", .contains⟩, ⟨"Tributo ACT", " \t", .equals⟩,
      ⟨"Observações", "x", .equals⟩],
    [⟨"Juntada", "", " "⟩, ⟨"Data de Protocolo", "2024-01-01", " "⟩], ⟨"", " 500 "⟩⟩

theorem collected_and_compiled_mixedForm :
    let today : Calendar.Date := ⟨2024, 6, 1, by decide⟩
    let filters := mixedForm.collect .default today
    let remark : Filter := ⟨"Observações", "y", some .contains, .text, none⟩
    filters.map some =
      [textFilter? .default ⟨"Nome do Contribuinte", " Acme (SP) ", .contains⟩,
        textFilter? .default ⟨"Observações", "x", .equals⟩,
        dateFilter? .default today ⟨"Data de Protocolo", "2024-01-01", " "⟩,
        Filter.ofValues? .default (some "") (some " 500 ")] ∧
    (∃ filter ∈ filters, ∃ criterion, filter.criterion = some criterion ∧ criterion.IsBuilt) ∧
    (∃ filter criterion,
      dateFilter? .default today ⟨"Data de Protocolo", "2024-01-01", " "⟩ = some filter ∧
        filter.criterion = some criterion ∧
        ∃ range : DateCriterion, criterion = .dateRange range ∧ range.lastDay = "2024-06-01") ∧
    (Query.compile ⟨"multa", ⟨filters⟩, .empty⟩).text =
      "multa nome_contribuinte_s:*Acme \\(SP\\)*" ++
        " dt_protocolo_tdt:[2024-01-01T00:00:00Z TO 2024-06-01T23:59:59Z]" ++
        " valor_processo_d:[* TO 500]" ∧
    (((remark :: filters).filter fun filter => !filter.isDisplayOnly) =
        filters.filter fun filter => !filter.isDisplayOnly) ∧
      Query.compile ⟨"multa", ⟨remark :: filters⟩, .empty⟩ =
        Query.compile ⟨"multa", ⟨filters⟩, .empty⟩ := by
  intro today filters remark
  obtain ⟨made, built, closed, text, unchanged⟩ := collected_and_compiled mixedForm .default today
  have acme : ∃ filter ∈ filters, ∃ criterion, filter.criterion = some criterion :=
    ⟨⟨"Nome do Contribuinte", "Acme (SP)", some .contains, .text,
      some (.text ⟨"nome_contribuinte_s", .contains, "Acme (SP)", "Acme \\(SP\\)"⟩)⟩,
      by decide +kernel, _, rfl⟩
  have dated : dateFilter? .default today ⟨"Data de Protocolo", "2024-01-01", " "⟩ =
      some ⟨"Data de Protocolo", "A partir de 01/01/2024", none, .date,
        some (.dateRange ⟨"dt_protocolo_tdt", some "2024-01-01", none, today⟩)⟩ := by
    decide +kernel
  refine ⟨made.trans (by decide +kernel), ?_, ⟨_, _, dated, rfl, ?_⟩,
    (text "multa" .empty).trans (by decide +kernel), rfl, unchanged _ "multa" .empty rfl⟩
  · obtain ⟨filter, collected, criterion, asked⟩ := acme
    exact ⟨filter, collected, criterion, asked, built filter collected criterion asked⟩
  · obtain ⟨range, same, day, -⟩ := closed _ _ _ dated rfl
    exact ⟨range, same, day.trans (by decide +kernel)⟩

end Form

end FacetedSearch
