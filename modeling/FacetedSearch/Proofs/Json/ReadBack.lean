import FacetedSearch.Interchange
import FacetedSearch.Proofs.Calendar.IsoText
import FacetedSearch.Proofs.Json.Record
import FacetedSearch.Proofs.Selection

/-!
# What is written is read back

Filters, queries, answers, bookmarks and forms are all read back from their texts as they were, with
everything in them in its order.  Operators and kinds of fields are known by their names, and days
by their digits; a criterion is found again under the name of its kind, with open bounds kept open.
A selection is not read as it is written but built again from its lists; a well-formed one comes out
of this as itself.
-/

namespace FacetedSearch

open Json

/-! ## Filters -/

theorem Operator.isReadAs (operator : Operator) :
    operator.document.IsReadAs Operator.ofDocument? operator := by
  refine ⟨.string operator.name, ?_⟩
  cases operator <;> decide +kernel

theorem FieldKind.isReadAs (kind : FieldKind) :
    kind.document.IsReadAs FieldKind.ofDocument? kind := by
  refine ⟨.string kind.name, ?_⟩
  cases kind <;> decide +kernel

/-- Every day is read back, years with a sign and more than four digits included. -/
theorem Calendar.Date.isReadAs (date : Calendar.Date) :
    date.document.IsReadAs Calendar.Date.ofDocument? date := by
  refine ⟨.string _, ?_⟩
  rw [Calendar.Date.document, Calendar.Date.ofDocument?, string?_string, Option.bind_some,
    String.toList_ofList, read?_isoText]

theorem TextCriterion.isReadAs (criterion : TextCriterion) :
    criterion.document.IsReadAs TextCriterion.ofDocument? criterion := by
  have operator := criterion.operator.isReadAs
  constructor
  · simp [document, operator.wellFormed]
  · simp [document, ofDocument?, record?_object, operator.same]

theorem DateCriterion.isReadAs (criterion : DateCriterion) :
    criterion.document.IsReadAs DateCriterion.ofDocument? criterion := by
  have today := criterion.today.isReadAs
  constructor
  · simp [document, wellFormed_ofOption isReadAs_string, today.wellFormed]
  · simp [document, ofDocument?, record?_object,
      optional?_cons_ofOption rfl isReadAs_string, today.same]

theorem NumericCriterion.isReadAs (criterion : NumericCriterion) :
    criterion.document.IsReadAs NumericCriterion.ofDocument? criterion := by
  constructor
  · simp [document, wellFormed_ofOption isReadAs_string]
  · simp [document, ofDocument?, record?_object,
      optional?_cons_ofOption rfl isReadAs_string]

theorem Criterion.isReadAs (criterion : Criterion) :
    criterion.document.IsReadAs Criterion.ofDocument? criterion := by
  cases criterion with
  | text criterion =>
      have content := criterion.isReadAs
      exact ⟨by simp [document, content.wellFormed],
        by simp [document, ofDocument?, Document.variant?, content.same]⟩
  | dateRange criterion =>
      have content := criterion.isReadAs
      exact ⟨by simp [document, content.wellFormed],
        by simp [document, ofDocument?, Document.variant?, content.same]⟩
  | numericRange criterion =>
      have content := criterion.isReadAs
      exact ⟨by simp [document, content.wellFormed],
        by simp [document, ofDocument?, Document.variant?, content.same]⟩

theorem Filter.isReadAs (filter : Filter) :
    filter.document.IsReadAs Filter.ofDocument? filter := by
  have kind := filter.kind.isReadAs
  constructor
  · simp [document, wellFormed_ofOption Operator.isReadAs, kind.wellFormed,
      wellFormed_ofOption Criterion.isReadAs]
  · simp [document, ofDocument?, record?_object, optional?_cons_ofOption rfl Operator.isReadAs,
      kind.same, optional?_cons_ofOption rfl Criterion.isReadAs]

theorem FilterSet.isReadAs (set : FilterSet) :
    set.document.IsReadAs FilterSet.ofDocument? set := by
  have filters := isReadAs_ofList Filter.isReadAs set.filters
  constructor
  · simp [document, filters.wellFormed]
  · simp [document, ofDocument?, record?_object, filters.same]

/-! ## Queries -/

theorem isReadAs_facetListsDocument (lists : FacetLists) :
    (facetListsDocument lists).IsReadAs facetListsOfDocument? lists :=
  isReadAs_ofTable (isReadAs_ofList isReadAs_string) lists

theorem Selection.WellFormed.isReadAs {selection : Selection} (wellFormed : selection.WellFormed) :
    selection.document.IsReadAs Selection.ofDocument? selection := by
  have lists := isReadAs_facetListsDocument selection.fields
  refine ⟨lists.wellFormed, ?_⟩
  rw [document, ofDocument?, lists.same, Option.map_some, wellFormed.ofTable_fields]

theorem Query.isReadAs {query : Query} (wellFormed : query.facets.WellFormed) :
    query.document.IsReadAs Query.ofDocument? query := by
  have filters := query.filters.isReadAs
  have facets := wellFormed.isReadAs
  constructor
  · simp [document, filters.wellFormed, facets.wellFormed]
  · simp [document, ofDocument?, record?_object, filters.same, facets.same]

/-! ## Answers -/

theorem CardLine.isReadAs (line : CardLine) :
    line.document.IsReadAs CardLine.ofDocument? line := by
  constructor
  · simp [document]
  · simp [document, ofDocument?, record?_object]

theorem Card.isReadAs (card : Card) : card.document.IsReadAs Card.ofDocument? card := by
  have lines := isReadAs_ofList CardLine.isReadAs card.lines
  have index := isReadAs_ofWord card.index
  constructor
  · simp [document, lines.wellFormed, index.wellFormed]
  · simp [document, ofDocument?, record?_object, lines.same, index.same]

theorem FacetCount.isReadAs (item : FacetCount) :
    item.document.IsReadAs FacetCount.ofDocument? item := by
  have count := isReadAs_ofWord item.count
  constructor
  · simp [document, count.wellFormed]
  · simp [document, ofDocument?, record?_object, count.same]

theorem Response.isReadAs (response : Response) :
    response.document.IsReadAs Response.ofDocument? response := by
  have cards := isReadAs_ofList Card.isReadAs response.cards
  have total := isReadAs_ofWord response.total
  have counts := isReadAs_ofTable (isReadAs_ofList FacetCount.isReadAs) response.counts
  constructor
  · simp [document, cards.wellFormed, total.wellFormed, counts.wellFormed]
  · simp [document, ofDocument?, record?_object, cards.same, total.same, counts.same]

/-! ## Bookmarks -/

theorem Bookmark.isReadAs (bookmark : Bookmark) :
    bookmark.document.IsReadAs Bookmark.ofDocument? bookmark := by
  have facets := isReadAs_facetListsDocument bookmark.facets
  have page := isReadAs_ofWord bookmark.page
  constructor
  · simp [document, facets.wellFormed, page.wellFormed]
  · simp [document, ofDocument?, record?_object, facets.same, page.same]

/-! ## Forms -/

theorem TextRow.isReadAs (row : TextRow) : row.document.IsReadAs TextRow.ofDocument? row := by
  have operator := row.operator.isReadAs
  constructor
  · simp [document, operator.wellFormed]
  · simp [document, ofDocument?, record?_object, operator.same]

theorem DateRow.isReadAs (row : DateRow) : row.document.IsReadAs DateRow.ofDocument? row := by
  constructor
  · simp [document]
  · simp [document, ofDocument?, record?_object]

theorem ValueRow.isReadAs (row : ValueRow) : row.document.IsReadAs ValueRow.ofDocument? row := by
  constructor
  · simp [document]
  · simp [document, ofDocument?, record?_object]

theorem Form.isReadAs (form : Form) : form.document.IsReadAs Form.ofDocument? form := by
  have texts := isReadAs_ofList TextRow.isReadAs form.texts
  have dates := isReadAs_ofList DateRow.isReadAs form.dates
  have values := form.values.isReadAs
  constructor
  · simp [document, texts.wellFormed, dates.wellFormed, values.wellFormed]
  · simp [document, ofDocument?, record?_object, texts.same, dates.same, values.same]

/-! ## What is written is read back -/

/-- A query with a well-formed selection, an answer, a bookmark and a form are each read back from
their own text, and the query that is read compiles to the same expression. -/
theorem written_values_read_back :
    (∀ query : Query, query.facets.WellFormed →
      readAs? Query.ofDocument? query.document.text = some query ∧
        (readAs? Query.ofDocument? query.document.text).map Query.compile = some query.compile) ∧
    (∀ response : Response,
      readAs? Response.ofDocument? response.document.text = some response) ∧
    (∀ bookmark : Bookmark,
      readAs? Bookmark.ofDocument? bookmark.document.text = some bookmark) ∧
    ∀ form : Form, readAs? Form.ofDocument? form.document.text = some form := by
  refine ⟨?_, ?_, ?_, ?_⟩
  · intro query wellFormed
    have read := (Query.isReadAs wellFormed).readAs?_text
    exact ⟨read, by rw [read, Option.map_some]⟩
  · exact fun response => response.isReadAs.readAs?_text
  · exact fun bookmark => bookmark.isReadAs.readAs?_text
  · exact fun form => form.isReadAs.readAs?_text

/-- A query with all kinds of criteria, characters that have to be escaped, and the earliest and the
latest day. -/
def awkwardQuery : Query where
  freeText := "\"\\\x00\x1f\n\x7f é😀 "
  filters := ⟨[
    ⟨"Título", "a/b", some .notContains, .text, some (.text ⟨"tit", .notContains, "a/b", "a\\/b"⟩)⟩,
    ⟨"Data", "", none, .date,
      some (.dateRange ⟨"dt", none, some "2024-1-5", ⟨-262143, 1, 1, by decide⟩⟩)⟩,
    ⟨"Data", "", none, .date,
      some (.dateRange ⟨"dt", some "", none, ⟨262142, 12, 31, by decide⟩⟩)⟩,
    ⟨"Valor", "Até 9", none, .numeric, some (.numericRange ⟨"vl", none, some "9"⟩)⟩,
    ⟨"Nenhum", "x", some .equals, .text, none⟩]⟩
  facets := .ofTable ⟨[("órgão", ["2", "1"]), ("ano", ["null"])], by decide⟩

/-- An answer with the largest numbers and counts under the empty key. -/
def awkwardResponse : Response :=
  ⟨[⟨"\"", "", "\\", [⟨"", "\t"⟩], 0xFFFFFFFFFFFFFFFF⟩], 0xFFFFFFFFFFFFFFFF,
    ⟨[("", [.ofValue "é" 0]), ("ano", [])], by decide⟩⟩

/-- A bookmark with a field without values and a repeated value. -/
def awkwardBookmark : Bookmark :=
  ⟨"\n", ⟨[("b", []), ("a", ["1", "1"])], by decide⟩, 0⟩

theorem written_values_read_back_awkward :
    (readAs? Query.ofDocument? awkwardQuery.document.text = some awkwardQuery ∧
      (readAs? Query.ofDocument? awkwardQuery.document.text).map Query.compile =
        some awkwardQuery.compile) ∧
    readAs? Response.ofDocument? awkwardResponse.document.text = some awkwardResponse ∧
    readAs? Bookmark.ofDocument? awkwardBookmark.document.text = some awkwardBookmark := by
  obtain ⟨queries, responses, bookmarks, -⟩ := written_values_read_back
  exact ⟨queries awkwardQuery (Selection.wellFormed_ofTable _), responses awkwardResponse,
    bookmarks awkwardBookmark⟩

end FacetedSearch
