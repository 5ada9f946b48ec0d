import FacetedSearch.Json.Record
import FacetedSearch.Json.Value

/-!
What the engine sends back for one request, as it sends it.

A reply holds the number of documents found, the documents of the page with their stored fields, and
for each counted field one flat list in which values and counts alternate.  Documents and lists hold
whatever was stored, as JSON values.
-/

namespace FacetedSearch

open Json

/-- The fields stored for one document. -/
abbrev StoredDocument :=
  JsonMembers

/-- What the engine says about its own work. -/
structure ReplyHeader where
  status : Int64
  time : UInt64

structure ReplyPage where
  found : UInt64
  start : UInt64
  documents : List StoredDocument

/-- For each counted field, values and counts in turn. -/
structure ReplyCounts where
  fields : Table (List JsonValue)

structure Reply where
  header : ReplyHeader
  page : ReplyPage
  counts : Option ReplyCounts

namespace ReplyHeader

/-- The header of a reply that has none. -/
def blank : ReplyHeader :=
  ⟨0, 0⟩

def document (header : ReplyHeader) : Document :=
  .object [("status", .number (.ofInt header.status.toInt)), ("QTime", .ofWord header.time)]

def ofDocument? (document : Document) : Option ReplyHeader := do
  let fields ← document.record? ["status", "QTime"] 0
  let status ← fields.default? "status" blank.status Document.signedWord?
  let time ← fields.default? "QTime" blank.time Document.word?
  return { status, time }

end ReplyHeader

/-- The stored fields of a document within `depth` containers, itself included. -/
def StoredDocument.ofDocument? (depth : Nat) (document : Document) : Option StoredDocument :=
  match JsonValue.ofDocument? depth document with
  | some (.object members) => some members
  | _ => none

def StoredDocument.read? (text : String) : Option StoredDocument :=
  readAs? (StoredDocument.ofDocument? JsonValue.maxDepth) text

namespace ReplyPage

def document (page : ReplyPage) : Document :=
  .object [("numFound", .ofWord page.found), ("start", .ofWord page.start),
    ("docs", .ofList (fun members => (JsonValue.object members).document) page.documents)]

/-- The page of a document within `depth` containers, itself included. -/
def ofDocument? (depth : Nat) (document : Document) : Option ReplyPage := do
  let fields ← document.record? ["numFound", "start", "docs"] 1
  let found ← fields.required? "numFound" Document.word?
  let start ← fields.default? "start" 0 Document.word?
  let documents ← fields.default? "docs" []
    (Document.list? (StoredDocument.ofDocument? (depth - 2)))
  return { found, start, documents }

end ReplyPage

namespace ReplyCounts

def document (counts : ReplyCounts) : Document :=
  .object [("facet_fields", .ofTable (.ofList JsonValue.document) counts.fields)]

/-- The counts of a document within `depth` containers, itself included. -/
def ofDocument? (depth : Nat) (document : Document) : Option ReplyCounts := do
  let found ← document.record? ["facet_fields"] 0
  let fields ← found.default? "facet_fields" .empty
    (Document.table? (Document.list? (JsonValue.ofDocument? (depth - 3))))
  return { fields }

def read? (text : String) : Option (Option ReplyCounts) :=
  readAs? (fun document =>
    match document with
    | .null => some none
    | document => (ofDocument? JsonValue.maxDepth document).map some) text

end ReplyCounts

namespace Reply

def document (reply : Reply) : Document :=
  .object [("responseHeader", reply.header.document), ("response", reply.page.document),
    ("facet_counts", .ofOption ReplyCounts.document reply.counts)]

def ofDocument? (document : Document) : Option Reply := do
  let fields ← document.record? ["responseHeader", "response", "facet_counts"] 2
  let header ← fields.default? "responseHeader" .blank ReplyHeader.ofDocument?
  let page ← fields.required? "response" (ReplyPage.ofDocument? (JsonValue.maxDepth - 1))
  let counts ← fields.optional? "facet_counts"
    (ReplyCounts.ofDocument? (JsonValue.maxDepth - 1))
  return { header, page, counts }

def read? (text : String) : Option Reply :=
  readAs? ofDocument? text

end Reply

end FacetedSearch
