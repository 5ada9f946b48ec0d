import FacetedSearch.Table

/-!
The facet values selected, per engine field.

Fields and values stand in the order in which they were selected, which is the order in which they
enter the expression.  The operations keep a field only while one of its values is selected and
never list a value twice; `Selection.WellFormed` says so.
-/

namespace FacetedSearch

/-- Lists of texts under ordered keys. -/
abbrev FacetLists :=
  Table (List String)

/-- The values selected for each field. -/
structure Selection where
  fields : FacetLists
deriving DecidableEq

namespace Selection

def empty : Selection :=
  ⟨.empty⟩

def isEmpty (selection : Selection) : Bool :=
  selection.fields.entries.isEmpty

/-- The values selected for a field; a field that is absent has none. -/
def values? (selection : Selection) (field : String) : Option (List String) :=
  selection.fields.get? field

def isActive (selection : Selection) (field value : String) : Bool :=
  ((selection.values? field).getD []).contains value

/-- Whether a toggle selects a value, rather than letting go of it. -/
def togglesOn (selection : Selection) (field value : String) : Bool :=
  !selection.isActive field value

/-- Selects a value that is not selected, and lets go of one that is. -/
def toggle (selection : Selection) (field value : String) : Selection :=
  let values := (selection.values? field).getD []
  if values.contains value then
    let remaining := values.erase value
    if remaining.isEmpty then ⟨selection.fields.erase field⟩
    else ⟨selection.fields.set field remaining⟩
  else ⟨selection.fields.set field (values ++ [value])⟩

/-- Adds one field with its values, each once, unless there are none. -/
def insertField (fields : FacetLists) (pair : String × List String) : FacetLists :=
  if pair.2.isEmpty then fields else fields.set pair.1 pair.2.eraseDups

/-- The selection of a list of fields with values.  Empty lists are passed over; where a field
comes again, its first place and its last list stay. -/
def ofPairs (pairs : List (String × List String)) : Selection :=
  ⟨pairs.foldl insertField .empty⟩

/-- Puts the selection of a list in place of what is selected. -/
def replaceAll (selection : Selection) (pairs : List (String × List String)) : Selection :=
  { selection with fields := (ofPairs pairs).fields }

/-- The selection of a table, where an empty list stands for a field that is not selected. -/
def ofTable (table : FacetLists) : Selection :=
  ofPairs table.entries

/-- Whether two lists hold the same texts. -/
def sameValues (first second : List String) : Bool :=
  first.length == second.length && first.all (second.contains ·)

/-- Whether two selections select the same values, in whatever order. -/
def agrees (selection other : Selection) : Bool :=
  selection.fields.entries.length == other.fields.entries.length &&
    selection.fields.entries.all fun entry =>
      match other.values? entry.1 with
      | some values => sameValues entry.2 values
      | none => false

/-- No field is without values, and none lists a value twice. -/
def WellFormed (selection : Selection) : Prop :=
  ∀ entry ∈ selection.fields.entries, entry.2 ≠ [] ∧ entry.2.Nodup

instance (selection : Selection) : Decidable selection.WellFormed :=
  inferInstanceAs (Decidable (∀ entry ∈ selection.fields.entries, entry.2 ≠ [] ∧ entry.2.Nodup))

end Selection

end FacetedSearch
