import FacetedSearch.Json.Reader

/-!
JSON values: what a document says, whatever its spelling.

The members of an object are sorted by key, and of repeated keys the last one counts.  Values nest
to a limited depth, and their numbers are in range.
-/

namespace FacetedSearch

open Json

inductive JsonValue where
  | null
  | bool (value : Bool)
  | number (value : Number)
  | string (text : String)
  | array (items : List JsonValue)
  | object (members : List (String × JsonValue))

namespace JsonValue

/-- The number of containers that may lie inside each other. -/
def maxDepth : Nat :=
  127

/-- Puts a member into its place, over one with the same key. -/
def insertMember (key : String) (value : JsonValue) :
    List (String × JsonValue) → List (String × JsonValue)
  | [] => [(key, value)]
  | member :: rest =>
      if key = member.1 then (key, value) :: rest
      else if key < member.1 then (key, value) :: member :: rest
      else member :: insertMember key value rest

/-- The members in order of their keys, where the last of a repeated key counts. -/
def sortMembers (members : List (String × JsonValue)) : List (String × JsonValue) :=
  members.foldl (fun sorted member => insertMember member.1 member.2 sorted) []

mutual

/-- The value of a document in which containers may nest `depth` deep. -/
def ofDocument? : (depth : Nat) → Document → Option JsonValue
  | _, .null => some .null
  | _, .bool value => some (.bool value)
  | _, .number numeral => numeral.number?.map .number
  | _, .string text => some (.string text)
  | 0, .array _ => none
  | depth + 1, .array items => (ofItems? depth items).map .array
  | 0, .object _ => none
  | depth + 1, .object members => (ofMembers? depth members).map fun values =>
      .object (sortMembers values)
  | _, .unreadable => none

def ofItems? : (depth : Nat) → List Document → Option (List JsonValue)
  | _, [] => some []
  | depth, item :: items => do
      let value ← ofDocument? depth item
      let values ← ofItems? depth items
      return value :: values

/-- The values of the members of an object, in order and with repeats. -/
def ofMembers? : (depth : Nat) → List (String × Document) → Option (List (String × JsonValue))
  | _, [] => some []
  | depth, (key, document) :: members => do
      let value ← ofDocument? depth document
      let values ← ofMembers? depth members
      return (key, value) :: values

end

mutual

def document : JsonValue → Document
  | .null => .null
  | .bool value => .bool value
  | .number value => .number value.numeral
  | .string text => .string text
  | .array items => .array (itemDocuments items)
  | .object members => .object (memberDocuments members)

def itemDocuments : List JsonValue → List Document
  | [] => []
  | item :: items => item.document :: itemDocuments items

def memberDocuments : List (String × JsonValue) → List (String × Document)
  | [] => []
  | (key, value) :: members => (key, value.document) :: memberDocuments members

end

def read? (text : String) : Option JsonValue :=
  (Document.read? text).bind (ofDocument? maxDepth)

def text (value : JsonValue) : String :=
  value.document.text

/-- The natural number that a value is, if it is one. -/
def natural? : JsonValue → Option UInt64
  | .number (.natural value) => some value
  | _ => none

end JsonValue

/-- The values of an object, sorted by key. -/
abbrev JsonMembers :=
  List (String × JsonValue)

end FacetedSearch
