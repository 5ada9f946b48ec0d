import FacetedSearch.Bookmark
import FacetedSearch.Cache
import FacetedSearch.Form
import FacetedSearch.Query
import FacetedSearch.Response
import FacetedSearch.Settings

/-!
A search session: the state behind a search screen.

Every operation that changes the query ends in the same way.  The query is compiled again, which
tells the observers when the expression has changed, and the current page is shown, from the cache
if it is there and otherwise from the engine.  A page past the end of the results is pulled back to
the last page and loaded once more.

Answers are matched to the requests they were asked for.  An answer to a request that is no longer
the current one is never shown; it enters the cache when its request has no entry there.

An operation loads two pages at most.  Time passes while a search is under way, and the engine may
answer the second search from another state of its index than the first.
-/

namespace FacetedSearch

open Calendar

/-- What one load of a page finds around it: the time at which the page is wanted, what the engine
answers to a request, which is nothing when the search fails, and the time at which the outcome is
there. -/
structure Visit where
  wantedAt : Instant
  engine : Request → Option Response
  arrivedAt : Instant

/-- What an operation finds around it: the time at which it starts, and what its loads find. -/
structure Surroundings where
  now : Instant
  first : Visit
  second : Visit

/-- Surroundings that stay as they are while an operation lasts. -/
def Surroundings.still (now : Instant) (engine : Request → Option Response) : Surroundings :=
  ⟨now, ⟨now, engine, now⟩, ⟨now, engine, now⟩⟩

/-- What an observer is told: the new expression. -/
structure Notice where
  observer : String
  expression : Expression
deriving DecidableEq

/-- A search session, with all that it has sent to the engine and told its observers so far. -/
structure Session where
  registry : Registry
  form : Form
  query : Query
  expression : Expression
  cache : Cache Request Response
  paging : Paging
  shown : Response
  observers : List String
  sent : List Request
  notices : List Notice
deriving DecidableEq

namespace Session

def start (registry : Registry) (settings : Settings) : Session where
  registry := registry
  form := .ofRegistry registry
  query := .empty
  expression := Query.empty.compile
  cache := .empty settings.maxAge
  paging := .start settings.pageSize
  shown := .empty
  observers := []
  sent := []
  notices := []

/-- The request whose answer the screen should show. -/
def currentRequest (session : Session) : Request :=
  ⟨session.expression.text, session.paging.page, session.paging.size⟩

/-- The counts that the screen shows. -/
def facetGroups (session : Session) : List FacetGroup :=
  FacetGroup.ofCounts session.registry session.shown.counts

def observe (session : Session) (observer : String) : Session :=
  { session with observers := session.observers ++ [observer] }

/-- Changes the form.  Nothing is applied yet. -/
def edit (session : Session) (change : FormEdit) : Session :=
  { session with form := session.form.apply change }

/-- Compiles the query again and tells the observers when the expression has changed. -/
def recompile (session : Session) : Session :=
  let expression := session.query.compile
  if expression = session.expression then session
  else
    { session with
      expression
      notices := session.notices ++ session.observers.map fun observer => ⟨observer, expression⟩ }

def display (session : Session) (response : Response) : Session :=
  { session with paging := session.paging.setTotal response.total, shown := response }

/-- Keeps an answer in the cache. -/
def keep (session : Session) (now : Instant) (request : Request) (response : Response) : Session :=
  { session with cache := session.cache.put request response now }

/-- Keeps an answer in the cache unless its request has an entry there. -/
def keepIfAbsent (session : Session) (now : Instant) (request : Request) (response : Response) :
    Session :=
  { session with cache := session.cache.putIfAbsent request response now }

def isCurrent (session : Session) (request : Request) : Bool :=
  request == session.currentRequest

/-- Takes the outcome of a request.  A failure of the current request shows the empty answer. -/
def complete (session : Session) (now : Instant) (request : Request)
    (outcome : Option Response) : Session :=
  match outcome, session.isCurrent request with
  | some response, true => (session.keep now request response).display response
  | some response, false => session.keepIfAbsent now request response
  | none, true => session.display .empty
  | none, false => session

/-- Shows the current page from the cache, or asks the engine for it. -/
def load (session : Session) (visit : Visit) : Session :=
  let request := session.currentRequest
  let counted := { session with cache := session.cache.afterGet request visit.wantedAt }
  match session.cache.get? request visit.wantedAt with
  | some response => counted.display response
  | none =>
      { counted with sent := counted.sent ++ [request] }.complete visit.arrivedAt request
        (visit.engine request)

/-- Puts the position on the last page when it is past the end. -/
def clamp (session : Session) : Session :=
  { session with paging := session.paging.clamp }

/-- Shows the current page, or the last one when the current page is past the end. -/
def refresh (session : Session) (world : Surroundings) : Session :=
  let loaded := session.load world.first
  if loaded.paging.isPastEnd then
    if 0 < loaded.shown.total then loaded.clamp.load world.second else loaded.clamp
  else loaded

/-- Shows the first page of the query as it is now. -/
def requery (session : Session) (world : Surroundings) : Session :=
  ({ session with paging := session.paging.reset }.recompile).refresh world

def submit (session : Session) (world : Surroundings) (text : String) : Session :=
  { session with query := { session.query with freeText := Text.trimmed text } }.requery world

/-- The filters that the form makes now. -/
def collected (session : Session) (now : Instant) : FilterSet :=
  ⟨session.form.collect session.registry now.date⟩

/-- Puts the filters of the form in place of those applied. -/
def applyForm (session : Session) (world : Surroundings) : Session :=
  { session with
    query := { session.query with filters := session.collected world.now } }.requery world

/-- The session without the applied filter at a position, if there is one. -/
def removeFilter (session : Session) (world : Surroundings) (position : Nat) : Session :=
  match session.query.filters.at? position with
  | some _ =>
      { session with
        query := { session.query with filters := session.query.filters.removeAt position }
      }.requery world
  | none => session

/-- Empties filters, form, facet selection and cache, and searches again. -/
def clearAll (session : Session) (world : Surroundings) : Session :=
  { session with
    query := { session.query with filters := .empty, facets := .empty }
    form := session.form.reset
    cache := session.cache.clear }.requery world

def select (session : Session) (world : Surroundings) (facets : Selection) : Session :=
  { session with query := { session.query with facets } }.requery world

/-- Selects a facet value, or lets go of it. -/
def toggleFacet (session : Session) (world : Surroundings) (field value : String) : Session :=
  session.select world (session.query.facets.toggle field value)

/-- Moves to a page; there is no session there when there is no such page. -/
def goTo? (session : Session) (world : Surroundings) (page : UInt64) : Option Session :=
  (session.paging.goTo? page).map fun paging => { session with paging }.refresh world

def bookmark (session : Session) : Bookmark :=
  ⟨session.query.freeText, session.query.facets.fields, session.paging.page⟩

/-- Takes free text, facets and page from a bookmark, without searching. -/
def openBookmark (session : Session) (bookmark : Bookmark) : Session :=
  { session with
    query := { session.query with
      freeText := Text.trimmed bookmark.freeText
      facets := .ofTable bookmark.facets }
    paging := session.paging.restore bookmark.page }

/-- Goes back to a bookmark.  The applied filters stay. -/
def restore (session : Session) (world : Surroundings) (bookmark : Bookmark) : Session :=
  (session.openBookmark bookmark).recompile.refresh world

/-- Goes back to a bookmark with the filters of the form. -/
def restoreWithForm (session : Session) (world : Surroundings) (bookmark : Bookmark) : Session :=
  { session with
    query := { session.query with filters := session.collected world.now }
  }.restore world bookmark

end Session

end FacetedSearch
