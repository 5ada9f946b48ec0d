import FacetedSearch.Text

/-!
The registry of searchable fields.

A registry maps the labels that people see to the fields that the engine stores.  Labels of text
and numeric fields are matched exactly once blanks and the autocomplete marker are gone.  The label
of a date field is matched when it occurs anywhere in the label that was asked for, so a section
title resolves through the word it contains.
-/

namespace FacetedSearch

inductive FieldKind where
  | text
  | date
  | numeric
deriving DecidableEq

def FieldKind.name : FieldKind → String
  | .text => "Text"
  | .date => "Date"
  | .numeric => "Numeric"

def FieldKind.ofName? (name : String) : Option FieldKind :=
  [FieldKind.text, .date, .numeric].find? fun kind => kind.name == name

/-- A label and the engine field behind it. -/
structure Field where
  label : String
  engineField : String
  kind : FieldKind
deriving DecidableEq

/-- Whether two fields would answer to the same label of the same kind. -/
def Field.clashes (field other : Field) : Bool :=
  field.kind == other.kind && field.label == other.label

/-- An engine field whose values are counted, with the label shown above the counts. -/
structure Facet where
  field : String
  label : String
deriving DecidableEq

/-- The searchable fields and the facets, each in the order of their declaration. -/
structure Registry where
  fields : List Field
  facets : List Facet
deriving DecidableEq

/-- The marker on labels of inputs that complete what is typed. -/
def autocompleteMarker : List Char :=
  " (AUTO)".toList

/-- Removes `ending` from the end of a text that has it. -/
def dropEnding (ending text : List Char) : List Char :=
  if ending.isSuffixOf text then text.take (text.length - ending.length) else text

/-- A label without surrounding blanks and without the autocomplete marker. -/
def normalizeLabel (label : String) : String :=
  String.ofList (Text.trimEnd (dropEnding autocompleteMarker (Text.trim label.toList)))

/-- The fields of a list that clash with none before them. -/
def distinctFields : List Field → List Field
  | [] => []
  | field :: rest => field :: (distinctFields rest).filter fun other => !field.clashes other

namespace Registry

/-- The registry of a list of fields, where of clashing fields the first is kept. -/
def of (fields : List Field) (facets : List Facet) : Registry :=
  ⟨distinctFields fields, facets⟩

/-- The fields of one kind, in order. -/
def ofKind (registry : Registry) (kind : FieldKind) : List Field :=
  registry.fields.filter fun field => field.kind == kind

def text? (registry : Registry) (label : String) : Option Field :=
  (registry.ofKind .text).find? fun field => field.label == normalizeLabel label

def numeric? (registry : Registry) (label : String) : Option Field :=
  (registry.ofKind .numeric).find? fun field => field.label == normalizeLabel label

/-- The first date field whose label occurs in the label asked for. -/
def date? (registry : Registry) (label : String) : Option Field :=
  (registry.ofKind .date).find? fun field => Text.contains label.toList field.label.toList

/-- The field behind a label; text fields come before numeric fields, and those before dates. -/
def field? (registry : Registry) (label : String) : Option Field :=
  (registry.text? label).or ((registry.numeric? label).or (registry.date? label))

/-- The numeric field that value ranges are about. -/
def value? (registry : Registry) : Option Field :=
  (registry.ofKind .numeric).head?

/-- The label shown above the counts of an engine field. -/
def facetLabel? (registry : Registry) (field : String) : Option String :=
  (registry.facets.find? fun facet => facet.field == field).map (·.label)

end Registry

end FacetedSearch
