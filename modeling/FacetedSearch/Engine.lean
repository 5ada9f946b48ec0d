import FacetedSearch.Bytes
import FacetedSearch.Engine.Answer
import FacetedSearch.Query
import FacetedSearch.Registry
import FacetedSearch.Settings
import FacetedSearch.Text.Utf8

/-!
Asking the engine for one page.

A request becomes an address with parameters, in which letters, digits and four marks stand for
themselves, a space becomes a plus sign, and every other byte of a text is written as a percent sign
with two digits.  What comes back over the link is a status and a body, which become an answer or a
failure.  The link itself is a parameter: it gives the message that an address is answered with, or
nothing when the engine cannot be reached.
-/

namespace FacetedSearch.Text

/-- Whether a byte stands for itself in the query part of an address. -/
def isPlainByte (byte : UInt8) : Bool :=
  (97 ≤ byte && byte ≤ 122) || (65 ≤ byte && byte ≤ 90) || (48 ≤ byte && byte ≤ 57) ||
    byte == 42 || byte == 45 || byte == 46 || byte == 95

def encodeByte (byte : UInt8) : List Char :=
  if byte = 32 then ['+']
  else if isPlainByte byte then [Char.ofNat byte.toNat]
  else '%' :: hexByte upperHexDigits byte

def formEncode (text : String) : String :=
  String.ofList ((Utf8.encode text.toList).flatMap encodeByte)

def formEncodePairs (pairs : List (String × String)) : String :=
  String.intercalate "&" (pairs.map fun pair => formEncode pair.1 ++ "=" ++ formEncode pair.2)

end FacetedSearch.Text

namespace FacetedSearch

/-! ## Messages -/

/-- The codes that say a request failed, with their names. -/
def failureNames : List (Nat × String) :=
  [(400, "Bad Request"), (401, "Unauthorized"), (402, "Payment Required"), (403, "Forbidden"),
    (404, "Not Found"), (405, "Method Not Allowed"), (406, "Not Acceptable"),
    (407, "Proxy Authentication Required"), (408, "Request Timeout"), (409, "Conflict"),
    (410, "Gone"), (411, "Length Required"), (412, "Precondition Failed"),
    (413, "Payload Too Large"), (414, "URI Too Long"), (415, "Unsupported Media Type"),
    (416, "Range Not Satisfiable"), (417, "Expectation Failed"), (418, "I'm a teapot"),
    (421, "Misdirected Request"), (422, "Unprocessable Entity"), (423, "Locked"),
    (424, "Failed Dependency"), (425, "Too Early"), (426, "Upgrade Required"),
    (428, "Precondition Required"), (429, "Too Many Requests"),
    (431, "Request Header Fields Too Large"), (451, "Unavailable For Legal Reasons"),
    (500, "Internal Server Error"), (501, "Not Implemented"), (502, "Bad Gateway"),
    (503, "Service Unavailable"), (504, "Gateway Timeout"), (505, "HTTP Version Not Supported"),
    (506, "Variant Also Negotiates"), (507, "Insufficient Storage"), (508, "Loop Detected"),
    (510, "Not Extended"), (511, "Network Authentication Required")]

def failureName (status : Nat) : String :=
  (failureNames.lookup status).getD "<unknown status code>"

/-- Whether a code says that the request failed, on either side. -/
def isFailure (status : Nat) : Bool :=
  decide (400 ≤ status) && decide (status ≤ 599)

structure Message where
  status : Nat
  body : String

/-- Whether a message with a status has no body, whatever was sent as one. -/
def isBodiless (status : Nat) : Bool :=
  status == 204 || status == 304

def dropByteOrderMark : List Char → List Char
  | '\uFEFF' :: text => text
  | text => text

def Message.text (message : Message) : String :=
  if isBodiless message.status then "" else String.ofList (dropByteOrderMark message.body.toList)

/-- What an address is answered with, if anything. -/
abbrev Link :=
  String → Option Message

def Link.down : Link :=
  fun _ => none

/-- Why there is no answer. -/
inductive EngineFailure where
  /-- The engine cannot be reached. -/
  | unreachable
  /-- The engine refuses or fails. -/
  | refused (status : Nat) (body : String)
  /-- The body is no reply. -/
  | unreadable
deriving DecidableEq

def EngineFailure.message? : EngineFailure → Option String
  | .refused status body =>
      some ("Error: " ++ toString status ++ " " ++ failureName status ++ ": " ++ body)
  | _ => none

/-! ## Requests and answers -/

namespace Engine

def countText (n : UInt64) : String :=
  Decimal.text n.toNat

/-- The parameters that ask for the counts of all facets. -/
def facetParameters (settings : Settings) (registry : Registry) : List (String × String) :=
  ("facet", "true") ::
    (registry.facets.map fun facet => ("facet.field", facet.field)) ++
    [("facet.mincount", countText settings.facetMinCount),
      ("facet.limit", countText settings.facetLimit)]

def parameters (settings : Settings) (registry : Registry) (request : Request) :
    List (String × String) :=
  [("q", request.query), ("start", countText request.start), ("rows", countText request.size),
    ("wt", "json")] ++ facetParameters settings registry

def address (settings : Settings) (registry : Registry) (request : Request) : String :=
  settings.selectUrl ++ "?" ++ Text.formEncodePairs (parameters settings registry request)

/-- The answer that a reply is shown as. -/
def answer (reply : Reply) : Response where
  cards := Card.ofStoredFrom 0 reply.page.documents
  total := reply.page.found
  counts := FacetCounts.ofReply reply.counts

def receive (message : Message) : Except EngineFailure Response :=
  if isFailure message.status then .error (.refused message.status message.text)
  else
    match Reply.read? message.text with
    | some reply => .ok (answer reply)
    | none => .error .unreadable

def search (settings : Settings) (registry : Registry) (link : Link) (request : Request) :
    Except EngineFailure Response :=
  match link (address settings registry request) with
  | some message => receive message
  | none => .error .unreachable

end Engine

end FacetedSearch
