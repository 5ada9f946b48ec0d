import FacetedSearch.Registry
import FacetedSearch.Table
import FacetedSearch.Text.Lowercase

/-!
What comes back from a search: cards for the documents of one page, the number of all results, and
counts of facet values.

The counts are shown in groups, one for each facet of the registry that has any.
-/

namespace FacetedSearch

structure CardLine where
  label : String
  value : String
deriving DecidableEq

/-- A document as it is shown. -/
structure Card where
  title : String
  pdfUrl : String
  pdfUrlBlank : String
  lines : List CardLine
  index : UInt64
deriving DecidableEq

/-- The value of the first line with a label. -/
def Card.line? (card : Card) (label : String) : Option String :=
  (card.lines.find? fun line => line.label == label).map (·.value)

/-- A facet value and the number of results that have it. -/
structure FacetCount where
  value : String
  label : String
  count : UInt64
deriving DecidableEq

/-- The count of a value that is shown as it is. -/
def FacetCount.ofValue (value : String) (count : UInt64) : FacetCount :=
  ⟨value, value, count⟩

/-- The counts for each engine field. -/
abbrev FacetCounts :=
  Table (List FacetCount)

structure Response where
  cards : List Card
  total : UInt64
  counts : FacetCounts
deriving DecidableEq

namespace Response

/-- The answer without results, which is also shown when a search fails. -/
def empty : Response :=
  ⟨[], 0, .empty⟩

/-- Whether an answer has neither cards nor results. -/
def isEmpty (response : Response) : Bool :=
  response.cards.isEmpty && response.total == 0

end Response

/-- The counts of one facet, under its label. -/
structure FacetGroup where
  field : String
  label : String
  items : List FacetCount
deriving DecidableEq

namespace FacetGroup

/-- The group of a field: its counts above zero under the label of the registry. -/
def ofField? (registry : Registry) (counts : FacetCounts) (field : String) :
    Option FacetGroup := do
  let label ← registry.facetLabel? field
  let values ← counts.get? field
  let items := values.filter fun item => decide (0 < item.count)
  if items.isEmpty then none else some ⟨field, label, items⟩

/-- The groups of all facets that have any counts, in the order of the registry. -/
def ofCounts (registry : Registry) (counts : FacetCounts) : List FacetGroup :=
  (registry.facets.map (·.field)).filterMap (ofField? registry counts)

/-- The items whose label contains a term, ignoring case. -/
def find (group : FacetGroup) (term : String) : List FacetCount :=
  group.items.filter fun item =>
    Text.contains (Text.lower item.label.toList) (Text.lower term.toList)

end FacetGroup

end FacetedSearch
