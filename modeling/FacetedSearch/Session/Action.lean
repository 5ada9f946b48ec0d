import FacetedSearch.Session

/-!
The actions on a session, and what each of them answers.

An action that is refused leaves the session as it was.
-/

namespace FacetedSearch

inductive Action where
  | observe (observer : String)
  | edit (change : FormEdit)
  | submit (text : String)
  | applyForm
  | removeFilter (position : Nat)
  | clearAll
  | toggleFacet (field value : String)
  | clearFacets
  | restoreFacets (facets : FacetLists)
  | goTo (page : UInt64)
  | next
  | previous
  | refresh
  | begin
  | complete (ticket : Request) (outcome : Option Response)
  | bookmark
  | restore (bookmark : Bookmark)
  | restoreWithForm (bookmark : Bookmark)

inductive Answer where
  | nothing
  | operator (operator : Operator)
  | removed (filter : Option Filter)
  /-- Whether a value is selected now, a page was shown, or an outcome was shown. -/
  | verdict (holds : Bool)
  | ticket (request : Request)
  | bookmark (bookmark : Bookmark)

namespace Session

/-- What an edit of the form answers: the operator that a toggle shows now. -/
def editAnswer (form : Form) : FormEdit → Answer
  | .cycleOperator label => .operator (form.operatorOf label)
  | _ => .nothing

/-- Moves to a page, if there is such a page. -/
def goTo (session : Session) (world : Surroundings) (page : UInt64) : Answer × Session :=
  match session.goTo? world page with
  | some moved => (.verdict true, moved)
  | none => (.verdict false, session)

def perform (session : Session) (world : Surroundings) : Action → Answer × Session
  | .observe observer => (.nothing, session.observe observer)
  | .edit change => (editAnswer (session.form.apply change) change, session.edit change)
  | .submit text => (.nothing, session.submit world text)
  | .applyForm => (.nothing, session.applyForm world)
  | .removeFilter position =>
      (.removed (session.query.filters.at? position), session.removeFilter world position)
  | .clearAll => (.nothing, session.clearAll world)
  | .toggleFacet field value =>
      (.verdict (session.query.facets.togglesOn field value),
        session.toggleFacet world field value)
  | .clearFacets => (.nothing, session.select world .empty)
  | .restoreFacets facets => (.nothing, session.select world (.ofTable facets))
  | .goTo page => session.goTo world page
  | .next => session.goTo world session.paging.nextPage
  | .previous => session.goTo world session.paging.previousPage
  | .refresh => (.nothing, session.refresh world)
  | .begin => (.ticket session.currentRequest, session)
  | .complete ticket outcome =>
      (.verdict (session.isCurrent ticket), session.complete world.now ticket outcome)
  | .bookmark => (.bookmark session.bookmark, session)
  | .restore bookmark => (.nothing, session.restore world bookmark)
  | .restoreWithForm bookmark => (.nothing, session.restoreWithForm world bookmark)

end Session

end FacetedSearch
