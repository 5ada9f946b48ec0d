import FacetedSearch.Json.Reader
import FacetedSearch.Table

/-!
Records in JSON: values with a fixed set of named fields.

A record is written as an object.  It is read from an object, whose other members are passed over
and whose fields must not be repeated, or from an array that lists the fields in their order.
-/

namespace FacetedSearch.Json

/-- The documents found for the fields of a record. -/
abbrev Fields :=
  List (String × Document)

namespace Document

/-- The fields of a record with the given names.  An array may stop after `least` of them. -/
def record? (names : List String) (least : Nat) : Document → Option Fields
  | .object members =>
      let known := members.filter fun member => names.contains member.1
      if (known.map (·.1)).Nodup then some known else none
  | .array items =>
      if least ≤ items.length ∧ items.length ≤ names.length then some (names.zip items) else none
  | _ => none

def string? : Document → Option String
  | .string text => some text
  | _ => none

/-- The number of a document that is a natural number of 64 bits. -/
def word? : Document → Option UInt64
  | .number numeral =>
      match numeral.number? with
      | some (.natural value) => some value
      | _ => none
  | _ => none

/-- The number of a document that is a signed integer of 64 bits. -/
def signedWord? : Document → Option Int64
  | .number numeral =>
      match numeral.number? with
      | some (.natural value) =>
          if value.toNat < signBit then some (Int64.ofInt value.toNat) else none
      | some (.negative value) => some value
      | _ => none
  | _ => none

def bool? : Document → Option Bool
  | .bool value => some value
  | _ => none

def list? {Value : Type} (read : Document → Option Value) : Document → Option (List Value)
  | .array items => items.mapM read
  | _ => none

def pair? {First Second : Type} (readFirst : Document → Option First)
    (readSecond : Document → Option Second) : Document → Option (First × Second)
  | .array [first, second] => do
      let first ← readFirst first
      let second ← readSecond second
      return (first, second)
  | _ => none

/-- The members of an object in the order of their keys, where the last value of a repeated key
takes the place of the first. -/
def table? {Value : Type} (read : Document → Option Value) : Document → Option (Table Value)
  | .object members =>
      (members.mapM fun member => (read member.2).map fun value => (member.1, value)).map
        Table.ofList
  | _ => none

/-- The one alternative that a document names, with the document given for it; an alternative that
carries nothing may stand alone as a text. -/
def variant? : Document → Option (String × Document)
  | .string name => some (name, .null)
  | .object [(name, content)] => some (name, content)
  | _ => none

/-- The name of an alternative that carries nothing. -/
def bareVariant? (document : Document) : Option String :=
  match variant? document with
  | some (name, .null) => some name
  | _ => none

/-- A value that may be missing. -/
def ofOption {Value : Type} (write : Value → Document) : Option Value → Document
  | some value => write value
  | none => .null

def ofList {Value : Type} (write : Value → Document) (values : List Value) : Document :=
  .array (values.map write)

def ofTable {Value : Type} (write : Value → Document) (table : Table Value) : Document :=
  .object (table.map write).entries

def ofWord (value : UInt64) : Document :=
  .number (.ofNat value.toNat)

end Document

namespace Fields

/-- A field that has to be there. -/
def required? {Value : Type} (fields : Fields) (name : String)
    (read : Document → Option Value) : Option Value :=
  (fields.lookup name).bind read

/-- A field that may be missing or null. -/
def optional? {Value : Type} (fields : Fields) (name : String)
    (read : Document → Option Value) : Option (Option Value) :=
  match fields.lookup name with
  | none => some none
  | some .null => some none
  | some document => (read document).map some

/-- A field that has a value of its own when it is missing. -/
def default? {Value : Type} (fields : Fields) (name : String) (fallback : Value)
    (read : Document → Option Value) : Option Value :=
  match fields.lookup name with
  | none => some fallback
  | some document => read document

end Fields

/-- Reads a value of any kind from a text. -/
def readAs? {Value : Type} (read : Document → Option Value) (text : String) : Option Value :=
  (Document.read? text).bind read

end FacetedSearch.Json
