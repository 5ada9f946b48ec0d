import FacetedSearch.Filter
import FacetedSearch.Paging
import FacetedSearch.Selection
import FacetedSearch.Sha256
import FacetedSearch.Text.Utf8

/-!
Queries, the expressions they are compiled to, and requests for the pages of these.

```text
<free text | *:*> <clause> <clause> AND ((f:"a" OR f:"b") AND (g:"c"))
```

The clauses of the filters follow the free text after single spaces, which the engine reads as a
conjunction.  Each field of the facet selection gives one group of alternatives, and all groups
have to hold.  Without free text every document is asked for.

A request asks for one page of one expression.  It is also the key under which its answer is kept,
so two requests are the same exactly when expression, page and page size agree to the letter.
-/

namespace FacetedSearch

structure Query where
  freeText : String
  filters : FilterSet
  facets : Selection
deriving DecidableEq

/-- An expression in the language of the engine. -/
structure Expression where
  text : String
deriving DecidableEq

namespace Query

def matchAll : String :=
  "*:*"

def empty : Query :=
  ⟨"", .empty, .empty⟩

/-- The clause for one selected value. -/
def facetClause (field value : String) : String :=
  field ++ ":\"" ++ escapePhrase value ++ "\""

/-- The alternatives of one field. -/
def facetGroup (field : String) (values : List String) : String :=
  "(" ++ String.intercalate " OR " (values.map (facetClause field)) ++ ")"

/-- The groups of all fields with selected values, if there are any. -/
def facetGroups? (facets : Selection) : Option String :=
  let chosen := facets.fields.entries.filter fun entry => !entry.2.isEmpty
  if chosen.isEmpty then none
  else some (String.intercalate " AND " (chosen.map fun entry => facetGroup entry.1 entry.2))

/-- What an expression starts with: the free text, or all documents when there is none. -/
def base (freeText : String) : String :=
  (Text.filled? freeText).getD matchAll

/-- The clauses of the filters, each behind a space. -/
def filterPart (filters : FilterSet) : String :=
  if filters.fragments.isEmpty then "" else " " ++ String.intercalate " " filters.fragments

/-- The groups of the facet selection, joined to what comes before. -/
def facetPart (facets : Selection) : String :=
  match facetGroups? facets with
  | some groups => " AND (" ++ groups ++ ")"
  | none => ""

def compile (query : Query) : Expression :=
  ⟨base query.freeText ++ filterPart query.filters ++ facetPart query.facets⟩

end Query

/-! ## Requests -/

/-- One page of one expression. -/
structure Request where
  query : String
  page : UInt64
  size : UInt64
deriving DecidableEq

namespace Request

/-- The zero-based number of the first result asked for. -/
def start (request : Request) : UInt64 :=
  pageStart request.page request.size

/-- A short name for a request: twelve digits of the digest of its three parts, one a line. -/
def digest (request : Request) : String :=
  let parts := request.query.toList ++ '\n' :: Decimal.write request.page.toNat ++
    '\n' :: Decimal.write request.size.toNat
  String.ofList ((Sha256.hexDigest (Utf8.encode parts)).take 12)

end Request

end FacetedSearch
