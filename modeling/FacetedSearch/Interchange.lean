import FacetedSearch.Bookmark
import FacetedSearch.Form
import FacetedSearch.Json.Record
import FacetedSearch.Paging
import FacetedSearch.Query
import FacetedSearch.Registry
import FacetedSearch.Response

/-!
What is exchanged with other programs, as JSON.

Each value that leaves the search or comes into it has a `document`, and `ofDocument?` reads the
value back from one.  Names, kinds and operators are strings, days are written with hyphens and read
in loose spacing, a facet is a pair of its field and its label, and a criterion stands under the
name of its kind.

A query and a bookmark may lack any of their parts, which are then those of a new search.
Registries and positions are read as they are written: clashing fields, page zero and pages of no
size stay in them.  A selection is read in the same way as any other table of lists is turned into
one, so that repeats and empty lists in the text leave no trace.
-/

namespace FacetedSearch

open Json

/-! ## Registries -/

def FieldKind.document (kind : FieldKind) : Document :=
  .string kind.name

def FieldKind.ofDocument? (document : Document) : Option FieldKind :=
  document.bareVariant?.bind FieldKind.ofName?

def Field.document (field : Field) : Document :=
  .object [("label", .string field.label), ("engine_field", .string field.engineField),
    ("kind", field.kind.document)]

def Field.ofDocument? (document : Document) : Option Field := do
  let fields ← document.record? ["label", "engine_field", "kind"] 3
  let label ← fields.required? "label" Document.string?
  let engineField ← fields.required? "engine_field" Document.string?
  let kind ← fields.required? "kind" FieldKind.ofDocument?
  return { label, engineField, kind }

def Facet.document (facet : Facet) : Document :=
  .array [.string facet.field, .string facet.label]

def Facet.ofDocument? (document : Document) : Option Facet :=
  (document.pair? Document.string? Document.string?).map fun (field, label) => ⟨field, label⟩

def Registry.document (registry : Registry) : Document :=
  .object [("fields", .ofList Field.document registry.fields),
    ("facet_fields", .ofList Facet.document registry.facets)]

def Registry.ofDocument? (document : Document) : Option Registry := do
  let fields ← document.record? ["fields", "facet_fields"] 2
  let declared ← fields.required? "fields" (Document.list? Field.ofDocument?)
  let facets ← fields.required? "facet_fields" (Document.list? Facet.ofDocument?)
  return { fields := declared, facets }

/-! ## Filters -/

def Operator.document (operator : Operator) : Document :=
  .string operator.name

def Operator.ofDocument? (document : Document) : Option Operator :=
  document.bareVariant?.bind Operator.ofName?

def Calendar.Date.document (date : Calendar.Date) : Document :=
  .string (String.ofList date.isoText)

def Calendar.Date.ofDocument? (document : Document) : Option Calendar.Date :=
  document.string?.bind fun text => Calendar.Date.read? .loose text.toList

def TextCriterion.document (criterion : TextCriterion) : Document :=
  .object [("field", .string criterion.field), ("operator", criterion.operator.document),
    ("raw_value", .string criterion.raw), ("escaped_value", .string criterion.escaped)]

def TextCriterion.ofDocument? (document : Document) : Option TextCriterion := do
  let fields ← document.record? ["field", "operator", "raw_value", "escaped_value"] 4
  let field ← fields.required? "field" Document.string?
  let operator ← fields.required? "operator" Operator.ofDocument?
  let raw ← fields.required? "raw_value" Document.string?
  let escaped ← fields.required? "escaped_value" Document.string?
  return { field, operator, raw, escaped }

def DateCriterion.document (criterion : DateCriterion) : Document :=
  .object [("field", .string criterion.field), ("from", .ofOption .string criterion.lower),
    ("to", .ofOption .string criterion.upper), ("today", criterion.today.document)]

def DateCriterion.ofDocument? (document : Document) : Option DateCriterion := do
  let fields ← document.record? ["field", "from", "to", "today"] 4
  let field ← fields.required? "field" Document.string?
  let lower ← fields.optional? "from" Document.string?
  let upper ← fields.optional? "to" Document.string?
  let today ← fields.required? "today" Calendar.Date.ofDocument?
  return { field, lower, upper, today }

def NumericCriterion.document (criterion : NumericCriterion) : Document :=
  .object [("field", .string criterion.field), ("min", .ofOption .string criterion.lower),
    ("max", .ofOption .string criterion.upper)]

def NumericCriterion.ofDocument? (document : Document) : Option NumericCriterion := do
  let fields ← document.record? ["field", "min", "max"] 3
  let field ← fields.required? "field" Document.string?
  let lower ← fields.optional? "min" Document.string?
  let upper ← fields.optional? "max" Document.string?
  return { field, lower, upper }

def Criterion.document : Criterion → Document
  | .text criterion => .object [("Text", criterion.document)]
  | .dateRange criterion => .object [("DateRange", criterion.document)]
  | .numericRange criterion => .object [("NumericRange", criterion.document)]

def Criterion.ofDocument? (document : Document) : Option Criterion :=
  match document.variant? with
  | some ("Text", content) => (TextCriterion.ofDocument? content).map .text
  | some ("DateRange", content) => (DateCriterion.ofDocument? content).map .dateRange
  | some ("NumericRange", content) => (NumericCriterion.ofDocument? content).map .numericRange
  | _ => none

def Filter.document (filter : Filter) : Document :=
  .object [("label", .string filter.label), ("display_value", .string filter.display),
    ("operator", .ofOption Operator.document filter.operator), ("kind", filter.kind.document),
    ("criterion", .ofOption Criterion.document filter.criterion)]

def Filter.ofDocument? (document : Document) : Option Filter := do
  let fields ← document.record? ["label", "display_value", "operator", "kind", "criterion"] 5
  let label ← fields.required? "label" Document.string?
  let display ← fields.required? "display_value" Document.string?
  let operator ← fields.optional? "operator" Operator.ofDocument?
  let kind ← fields.required? "kind" FieldKind.ofDocument?
  let criterion ← fields.optional? "criterion" Criterion.ofDocument?
  return { label, display, operator, kind, criterion }

def FilterSet.document (set : FilterSet) : Document :=
  .object [("filters", .ofList Filter.document set.filters)]

def FilterSet.ofDocument? (document : Document) : Option FilterSet := do
  let fields ← document.record? ["filters"] 1
  let filters ← fields.required? "filters" (Document.list? Filter.ofDocument?)
  return { filters }

/-! ## Selections -/

def facetListsDocument (lists : FacetLists) : Document :=
  .ofTable (.ofList .string) lists

def facetListsOfDocument? (document : Document) : Option FacetLists :=
  document.table? (Document.list? Document.string?)

def Selection.document (selection : Selection) : Document :=
  facetListsDocument selection.fields

def Selection.ofDocument? (document : Document) : Option Selection :=
  (facetListsOfDocument? document).map Selection.ofTable

/-! ## Queries -/

def Query.document (query : Query) : Document :=
  .object [("query_string", .string query.freeText), ("filters", query.filters.document),
    ("facet_filters", query.facets.document)]

def Query.ofDocument? (document : Document) : Option Query := do
  let fields ← document.record? ["query_string", "filters", "facet_filters"] 0
  let freeText ← fields.default? "query_string" Query.empty.freeText Document.string?
  let filters ← fields.default? "filters" Query.empty.filters FilterSet.ofDocument?
  let facets ← fields.default? "facet_filters" Query.empty.facets Selection.ofDocument?
  return { freeText, filters, facets }

def Expression.document (expression : Expression) : Document :=
  .object [("text", .string expression.text)]

def Expression.ofDocument? (document : Document) : Option Expression := do
  let fields ← document.record? ["text"] 1
  let text ← fields.required? "text" Document.string?
  return { text }

def Request.document (request : Request) : Document :=
  .object [("query_text", .string request.query), ("page", .ofWord request.page),
    ("page_size", .ofWord request.size)]

def Request.ofDocument? (document : Document) : Option Request := do
  let fields ← document.record? ["query_text", "page", "page_size"] 3
  let query ← fields.required? "query_text" Document.string?
  let page ← fields.required? "page" Document.word?
  let size ← fields.required? "page_size" Document.word?
  return { query, page, size }

/-! ## Bookmarks -/

def Bookmark.document (bookmark : Bookmark) : Document :=
  .object [("free_text", .string bookmark.freeText),
    ("facets", facetListsDocument bookmark.facets), ("page", .ofWord bookmark.page)]

def Bookmark.ofDocument? (document : Document) : Option Bookmark := do
  let fields ← document.record? ["free_text", "facets", "page"] 0
  let freeText ← fields.default? "free_text" blank.freeText Document.string?
  let facets ← fields.default? "facets" blank.facets facetListsOfDocument?
  let page ← fields.default? "page" blank.page Document.word?
  return { freeText, facets, page }

/-! ## Positions -/

def Paging.document (paging : Paging) : Document :=
  .object [("current_page", .ofWord paging.page), ("page_size", .ofWord paging.size),
    ("total_results", .ofWord paging.total)]

def Paging.ofDocument? (document : Document) : Option Paging := do
  let fields ← document.record? ["current_page", "page_size", "total_results"] 3
  let page ← fields.required? "current_page" Document.word?
  let size ← fields.required? "page_size" Document.word?
  let total ← fields.required? "total_results" Document.word?
  return { page, size, total }

def Navigation.document (navigation : Navigation) : Document :=
  .object [("previous_enabled", .bool navigation.previous),
    ("next_enabled", .bool navigation.next)]

def Navigation.ofDocument? (document : Document) : Option Navigation := do
  let fields ← document.record? ["previous_enabled", "next_enabled"] 2
  let previous ← fields.required? "previous_enabled" Document.bool?
  let next ← fields.required? "next_enabled" Document.bool?
  return { previous, next }

/-! ## Answers -/

def CardLine.document (line : CardLine) : Document :=
  .object [("label", .string line.label), ("value", .string line.value)]

def CardLine.ofDocument? (document : Document) : Option CardLine := do
  let fields ← document.record? ["label", "value"] 2
  let label ← fields.required? "label" Document.string?
  let value ← fields.required? "value" Document.string?
  return { label, value }

def Card.document (card : Card) : Document :=
  .object [("title", .string card.title), ("pdf_url", .string card.pdfUrl),
    ("pdf_url_blank", .string card.pdfUrlBlank),
    ("fields", .ofList CardLine.document card.lines),
    ("result_index_in_page", .ofWord card.index)]

def Card.ofDocument? (document : Document) : Option Card := do
  let fields ← document.record?
    ["title", "pdf_url", "pdf_url_blank", "fields", "result_index_in_page"] 5
  let title ← fields.required? "title" Document.string?
  let pdfUrl ← fields.required? "pdf_url" Document.string?
  let pdfUrlBlank ← fields.required? "pdf_url_blank" Document.string?
  let lines ← fields.required? "fields" (Document.list? CardLine.ofDocument?)
  let index ← fields.required? "result_index_in_page" Document.word?
  return { title, pdfUrl, pdfUrlBlank, lines, index }

def FacetCount.document (item : FacetCount) : Document :=
  .object [("value", .string item.value), ("label", .string item.label),
    ("count", .ofWord item.count)]

def FacetCount.ofDocument? (document : Document) : Option FacetCount := do
  let fields ← document.record? ["value", "label", "count"] 3
  let value ← fields.required? "value" Document.string?
  let label ← fields.required? "label" Document.string?
  let count ← fields.required? "count" Document.word?
  return { value, label, count }

def Response.document (response : Response) : Document :=
  .object [("documents", .ofList Card.document response.cards),
    ("total", .ofWord response.total),
    ("facet_counts", .ofTable (.ofList FacetCount.document) response.counts)]

def Response.ofDocument? (document : Document) : Option Response := do
  let fields ← document.record? ["documents", "total", "facet_counts"] 3
  let cards ← fields.required? "documents" (Document.list? Card.ofDocument?)
  let total ← fields.required? "total" Document.word?
  let counts ← fields.required? "facet_counts"
    (Document.table? (Document.list? FacetCount.ofDocument?))
  return { cards, total, counts }

def FacetGroup.document (group : FacetGroup) : Document :=
  .object [("field", .string group.field), ("label", .string group.label),
    ("items", .ofList FacetCount.document group.items)]

def FacetGroup.ofDocument? (document : Document) : Option FacetGroup := do
  let fields ← document.record? ["field", "label", "items"] 3
  let field ← fields.required? "field" Document.string?
  let label ← fields.required? "label" Document.string?
  let items ← fields.required? "items" (Document.list? FacetCount.ofDocument?)
  return { field, label, items }

/-! ## Forms -/

def TextRow.document (row : TextRow) : Document :=
  .object [("label", .string row.label), ("value", .string row.value),
    ("operator", row.operator.document)]

def TextRow.ofDocument? (document : Document) : Option TextRow := do
  let fields ← document.record? ["label", "value", "operator"] 3
  let label ← fields.required? "label" Document.string?
  let value ← fields.required? "value" Document.string?
  let operator ← fields.required? "operator" Operator.ofDocument?
  return { label, value, operator }

def DateRow.document (row : DateRow) : Document :=
  .object [("label", .string row.label), ("from", .string row.lower), ("to", .string row.upper)]

def DateRow.ofDocument? (document : Document) : Option DateRow := do
  let fields ← document.record? ["label", "from", "to"] 3
  let label ← fields.required? "label" Document.string?
  let lower ← fields.required? "from" Document.string?
  let upper ← fields.required? "to" Document.string?
  return { label, lower, upper }

def ValueRow.document (row : ValueRow) : Document :=
  .object [("min", .string row.lower), ("max", .string row.upper)]

def ValueRow.ofDocument? (document : Document) : Option ValueRow := do
  let fields ← document.record? ["min", "max"] 2
  let lower ← fields.required? "min" Document.string?
  let upper ← fields.required? "max" Document.string?
  return { lower, upper }

def Form.document (form : Form) : Document :=
  .object [("text_inputs", .ofList TextRow.document form.texts),
    ("date_inputs", .ofList DateRow.document form.dates),
    ("value_input", form.values.document)]

def Form.ofDocument? (document : Document) : Option Form := do
  let fields ← document.record? ["text_inputs", "date_inputs", "value_input"] 3
  let texts ← fields.required? "text_inputs" (Document.list? TextRow.ofDocument?)
  let dates ← fields.required? "date_inputs" (Document.list? DateRow.ofDocument?)
  let values ← fields.required? "value_input" ValueRow.ofDocument?
  return { texts, dates, values }

end FacetedSearch
