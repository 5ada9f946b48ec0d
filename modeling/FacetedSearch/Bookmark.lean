import FacetedSearch.Base64Url
import FacetedSearch.Cbor.Reader
import FacetedSearch.Selection
import FacetedSearch.Text

/-!
Bookmarks: a search as a token that fits into an address.

A bookmark holds the free text, the facet lists and the page.  Its token is a binary map of the
three in base 64.  Tokens come from outside, so their length is checked before anything is decoded;
a token without content is the bookmark of a new search.

In the map, fields that are not known are passed over, missing ones have the values of a new search,
and none may come twice.
-/

namespace FacetedSearch

open Cbor

/-- What is needed to find a search again. -/
structure Bookmark where
  freeText : String
  facets : FacetLists
  page : UInt64
deriving DecidableEq

/-- Why a token is no bookmark. -/
inductive TokenFault where
  | tooLong (length : Nat)
  | notBase64 (fault : Base64Url.Fault)
  | notBookmark (fault : Cbor.Fault)
deriving DecidableEq

namespace Bookmark

/-- The bookmark of a new search. -/
def blank : Bookmark :=
  ⟨"", .empty, 0⟩

def writeText (text : String) : List UInt8 :=
  let bytes := Utf8.encode text.toList
  writeHeader textKind bytes.length ++ bytes

def writeTexts (texts : List String) : List UInt8 :=
  writeHeader arrayKind texts.length ++ texts.flatMap writeText

def writeLists (lists : FacetLists) : List UInt8 :=
  writeHeader mapKind lists.entries.length ++
    lists.entries.flatMap fun entry => writeText entry.1 ++ writeTexts entry.2

def encode (bookmark : Bookmark) : List UInt8 :=
  writeHeader mapKind 3 ++
    (writeText "free_text" ++ writeText bookmark.freeText) ++
    (writeText "facets" ++ writeLists bookmark.facets) ++
    (writeText "page" ++ writeHeader wordKind bookmark.page.toNat)

def token (bookmark : Bookmark) : String :=
  String.ofList (Base64Url.encode bookmark.encode)

structure Partial where
  freeText : Option String
  facets : Option FacetLists
  page : Option UInt64

def Partial.unread : Partial :=
  ⟨none, none, none⟩

/-- The bookmark of the fields read, where missing ones are those of a new search. -/
def Partial.fill (fields : Partial) : Bookmark :=
  ⟨fields.freeText.getD blank.freeText, fields.facets.getD blank.facets,
    fields.page.getD blank.page⟩

/-- The containers, and tags of fields that are passed over, that may lie inside each other in the
binary form. -/
def maxDepth : Nat :=
  256

def readField (isOpen : Bool) (fields : Partial) (input : Input) :
    Except Cbor.Fault (Partial × Input) := do
  let (name, input) ← input.name isOpen
  if name = Utf8.encode "free_text".toList then
    if fields.freeText.isSome then .error .mismatched
    else
      let (text, input) ← input.text
      return ({ fields with freeText := some text }, input)
  else if name = Utf8.encode "facets".toList then
    if fields.facets.isSome then .error .mismatched
    else
      let (lists, input) ← input.textLists
      return ({ fields with facets := some lists }, input)
  else if name = Utf8.encode "page".toList then
    if fields.page.isSome then .error .mismatched
    else
      let (page, input) ← input.word
      return ({ fields with page := some page }, input)
  else
    let input ← input.skip (maxDepth - 1)
    return (fields, input)

/-- The bookmark of a binary form.  Bytes behind it are not looked at. -/
def decode (bytes : List UInt8) : Except Cbor.Fault Bookmark := do
  let found ← Input.untagged ⟨bytes, 0⟩
  match found.header with
  | .map length =>
      let (fields, _) ← readEntries (readField length.isNone) length .unread found.rest
      return fields.fill
  | _ => .error .mismatched

/-- The longest token that is accepted, in bytes. -/
def maxTokenLength : Nat :=
  16384

/-- A text without the padding of base 64 at its end. -/
def dropPadding (bytes : List UInt8) : List UInt8 :=
  (bytes.reverse.dropWhile (· == Base64Url.padding)).reverse

def ofToken (token : String) : Except TokenFault Bookmark :=
  let bytes := Utf8.encode (Text.trim token.toList)
  if bytes.isEmpty then .ok blank
  else if maxTokenLength < bytes.length then .error (.tooLong bytes.length)
  else
    match Base64Url.decode (dropPadding bytes) with
    | .error fault => .error (.notBase64 fault)
    | .ok bytes =>
        match decode bytes with
        | .error fault => .error (.notBookmark fault)
        | .ok bookmark => .ok bookmark

end Bookmark

/-- What is said about a token, for the faults that are described. -/
def TokenFault.message? : TokenFault → Option String
  | .tooLong length =>
      some ("state token is " ++ toString length ++ " bytes, limit is " ++
        toString Bookmark.maxTokenLength)
  | .notBase64 fault => some ("state token is not base64: " ++ fault.message)
  | .notBookmark (.malformed offset) =>
      some ("state token does not hold a search state: Syntax(" ++ toString offset ++ ")")
  | .notBookmark _ => none

end FacetedSearch
