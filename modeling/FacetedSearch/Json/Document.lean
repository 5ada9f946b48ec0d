import FacetedSearch.Bytes
import FacetedSearch.Json.Numeral

/-!
JSON documents as they are written.

A document keeps the members of its objects in order, repeats included, and its numbers as
numerals.  Written out, it has no blanks, and in texts only quotes, backslashes and control
characters are escaped.
-/

namespace FacetedSearch.Json

/-- A JSON document. -/
inductive Document where
  | null
  | bool (value : Bool)
  | number (numeral : Numeral)
  | string (text : String)
  | array (items : List Document)
  | object (members : List (String × Document))
  /-- A text whose escapes name half of a surrogate pair, or an object with such a key.  It can be
  skipped, but it holds nothing that could be read. -/
  | unreadable

/-- The escape of a character in a text, if it has to be escaped. -/
def escape? (c : Char) : Option (List Char) :=
  if c = '"' then some ['\\', '"']
  else if c = '\\' then some ['\\', '\\']
  else if c = '\x08' then some ['\\', 'b']
  else if c = '\x0c' then some ['\\', 'f']
  else if c = '\n' then some ['\\', 'n']
  else if c = '\r' then some ['\\', 'r']
  else if c = '\t' then some ['\\', 't']
  else if c.toNat < 0x20 then
    some (['\\', 'u', '0', '0'] ++ Text.hexByte Text.lowerHexDigits (UInt8.ofNat c.toNat))
  else none

def escapeText : List Char → List Char
  | [] => []
  | c :: rest => (escape? c).getD [c] ++ escapeText rest

def quote (text : List Char) : List Char :=
  '"' :: escapeText text ++ ['"']

def writeBool : Bool → List Char
  | true => ['t', 'r', 'u', 'e']
  | false => ['f', 'a', 'l', 's', 'e']

mutual

def Document.write : Document → List Char
  | .null => ['n', 'u', 'l', 'l']
  | .bool value => writeBool value
  | .number numeral => numeral.write
  | .string text => quote text.toList
  | .array [] => ['[', ']']
  | .array (item :: items) => '[' :: item.write ++ writeItems items
  | .object [] => ['\x7b', '\x7d']
  | .object ((key, value) :: members) =>
      '\x7b' :: quote key.toList ++ ':' :: value.write ++ writeMembers members
  | .unreadable => ['"', '\\', 'u', 'd', '8', '0', '0', '"']

/-- The characters of the items after the first, up to the closing bracket. -/
def writeItems : List Document → List Char
  | [] => [']']
  | item :: items => ',' :: item.write ++ writeItems items

/-- The characters of the members after the first, up to the closing brace. -/
def writeMembers : List (String × Document) → List Char
  | [] => ['\x7d']
  | (key, value) :: members =>
      ',' :: quote key.toList ++ ':' :: value.write ++ writeMembers members

end

def Document.text (document : Document) : String :=
  String.ofList document.write

end FacetedSearch.Json
