import FacetedSearch.Calendar.Instant
import FacetedSearch.Decimal
import FacetedSearch.Paging
import FacetedSearch.Text

/-!
Settings, read from named variables.

A variable that is missing, is no number, or is out of range leaves its setting as it is without
the variable.  So every setting can be used as it was read.
-/

namespace FacetedSearch

open Calendar

/-- Where the engine is and how it is asked. -/
structure Settings where
  baseUrl : String
  pageSize : UInt64
  maxAgeSeconds : UInt64
  facetLimit : UInt64
  facetMinCount : UInt64
  timeoutSeconds : UInt64
deriving DecidableEq

/-- The number in a text: at most one plus sign, and digits; it fits a word. -/
def readWord? (text : List Char) : Option UInt64 :=
  let digits := match text with
    | '+' :: digits => digits
    | digits => digits
  match Decimal.ofText? digits with
  | some n => if n ≤ Saturating.top then some (UInt64.ofNat n) else none
  | none => none

/-- The number in a variable, with blanks around it. -/
def readCount? (text : String) : Option UInt64 :=
  readWord? (Text.trim text.toList)

/-- A text without the slashes it ends with. -/
def dropFinalSlashes (text : List Char) : List Char :=
  (text.reverse.dropWhile (· == '/')).reverse

namespace Settings

/-- The seconds for which an answer is kept. -/
def defaultMaxAgeSeconds : UInt64 :=
  300

def default : Settings :=
  ⟨"http://127.0.0.1:8983/solr/eprocesso", Paging.defaultSize, defaultMaxAgeSeconds, 20, 1, 30⟩

def count (lookup : String → Option String) (variableName : String) (fallback : UInt64) : UInt64 :=
  ((lookup variableName).bind readCount?).getD fallback

/-- An address without surrounding blanks and final slashes, unless nothing is left of it. -/
def readUrl? (text : String) : Option String :=
  let url := dropFinalSlashes (Text.trim text.toList)
  if url.isEmpty then none else some (String.ofList url)

/-- A number of seconds that makes a span of time. -/
def usableSeconds (seconds : UInt64) : UInt64 :=
  if (Duration.ofSeconds? seconds.toNat).isSome then seconds else defaultMaxAgeSeconds

/-- The settings that variables give. -/
def ofLookup (lookup : String → Option String) : Settings where
  baseUrl := ((lookup "SOLR_BASE_URL").bind readUrl?).getD default.baseUrl
  pageSize := max (count lookup "SEARCH_PAGE_SIZE" default.pageSize) 1
  maxAgeSeconds := usableSeconds (count lookup "SEARCH_CACHE_TTL_SECS" default.maxAgeSeconds)
  facetLimit := count lookup "SEARCH_FACET_LIMIT" default.facetLimit
  facetMinCount := count lookup "SEARCH_FACET_MIN_COUNT" default.facetMinCount
  timeoutSeconds := count lookup "SEARCH_HTTP_TIMEOUT_SECS" default.timeoutSeconds

/-- Five minutes. -/
def defaultMaxAge : Duration :=
  ⟨300000000000, by decide, by decide⟩

/-- The age that a kept answer may reach; settings made otherwise than from variables may name
more seconds than a span of time can have. -/
def maxAge (settings : Settings) : Duration :=
  (Duration.ofSeconds? settings.maxAgeSeconds.toNat).getD defaultMaxAge

def selectUrl (settings : Settings) : String :=
  settings.baseUrl ++ "/select"

end Settings

end FacetedSearch
