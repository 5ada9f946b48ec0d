import FacetedSearch.Proofs.Paging
import FacetedSearch.Session.Action

/-!
How an action divides into a preparation and the loading of a page.

Every action that changes what is searched for, or which page of it, first prepares the session
without a look at the cache or the engine, and then refreshes it.  The other actions load nothing.
`perform_eq` says so for all actions at once, so that whatever is proved of preparations, of
`refresh` and of the few other actions holds of a whole run.

A preparation touches neither the answer on the screen nor what has been sent, and it takes nothing
into the cache: `Leaves` lists what stays.
-/

namespace FacetedSearch

open Calendar

/-- One step of a run: an action and what it finds around it. -/
structure Step where
  world : Surroundings
  action : Action

namespace Session

/-- The first page of another query, before it is loaded. -/
def turnTo (session : Session) (query : Query) : Session :=
  { session with query, paging := session.paging.reset }.recompile

/-- The session as an action has prepared it, when only its page has to be loaded.  An action that
loads no page, or is refused, prepares none. -/
def prepared? (session : Session) (now : Instant) : Action → Option Session
  | .submit text => some (session.turnTo { session.query with freeText := Text.trimmed text })
  | .applyForm => some (session.turnTo { session.query with filters := session.collected now })
  | .removeFilter position =>
      (session.query.filters.at? position).map fun _ =>
        session.turnTo
          { session.query with filters := session.query.filters.removeAt position }
  | .clearAll =>
      some ({ session with form := session.form.reset, cache := session.cache.clear }.turnTo
        { session.query with filters := .empty, facets := .empty })
  | .toggleFacet field value =>
      some (session.turnTo
        { session.query with facets := session.query.facets.toggle field value })
  | .clearFacets => some (session.turnTo { session.query with facets := .empty })
  | .restoreFacets facets => some (session.turnTo { session.query with facets := .ofTable facets })
  | .goTo page => (session.paging.goTo? page).map fun paging => { session with paging }
  | .next =>
      (session.paging.goTo? session.paging.nextPage).map fun paging => { session with paging }
  | .previous =>
      (session.paging.goTo? session.paging.previousPage).map fun paging => { session with paging }
  | .refresh => some session
  | .restore bookmark => some (session.openBookmark bookmark).recompile
  | .restoreWithForm bookmark =>
      some ({ session with
        query := { session.query with filters := session.collected now }
      }.openBookmark bookmark).recompile
  | .observe _ | .edit _ | .begin | .complete _ _ | .bookmark => none

/-- The session after an action that loads no page. -/
def unloaded (session : Session) (now : Instant) : Action → Session
  | .observe observer => session.observe observer
  | .edit change => session.edit change
  | .complete ticket outcome => session.complete now ticket outcome
  | _ => session

/-- What an action answers, which is settled before a page is loaded. -/
def answer (session : Session) : Action → Answer
  | .edit change => editAnswer (session.form.apply change) change
  | .removeFilter position => .removed (session.query.filters.at? position)
  | .toggleFacet field value => .verdict (session.query.facets.togglesOn field value)
  | .goTo page => .verdict (session.paging.hasPage page)
  | .next => .verdict (session.paging.hasPage session.paging.nextPage)
  | .previous => .verdict (session.paging.hasPage session.paging.previousPage)
  | .begin => .ticket session.currentRequest
  | .complete ticket _ => .verdict (session.isCurrent ticket)
  | .bookmark => .bookmark session.bookmark
  | _ => .nothing

/-- The session after an action. -/
def after (session : Session) (world : Surroundings) (action : Action) : Session :=
  (session.perform world action).2

/-- The session after the steps of a run. -/
def run (session : Session) : List Step → Session
  | [] => session
  | step :: rest => (session.after step.world step.action).run rest

theorem goTo_eq (session : Session) (world : Surroundings) (page : UInt64) :
    session.goTo world page = (.verdict (session.paging.hasPage page),
      match (session.paging.goTo? page).map fun paging => { session with paging } with
      | some prepared => prepared.refresh world
      | none => session) := by
  unfold goTo goTo? Paging.goTo?
  cases session.paging.hasPage page <;> rfl

/-- An action gives its answer, and refreshes what it has prepared. -/
theorem perform_eq (session : Session) (world : Surroundings) (action : Action) :
    session.perform world action = (session.answer action,
      match session.prepared? world.now action with
      | some prepared => prepared.refresh world
      | none => session.unloaded world.now action) := by
  cases action with
  | removeFilter position =>
      simp only [perform, answer, prepared?, removeFilter]
      cases session.query.filters.at? position <;> rfl
  | goTo page => exact session.goTo_eq world page
  | next => exact session.goTo_eq world session.paging.nextPage
  | previous => exact session.goTo_eq world session.paging.previousPage
  | _ => rfl

theorem after_eq_refresh {session prepared : Session} {world : Surroundings} {action : Action}
    (preparation : session.prepared? world.now action = some prepared) :
    session.after world action = prepared.refresh world := by
  rw [after, perform_eq, preparation]

theorem after_eq_unloaded {session : Session} {world : Surroundings} {action : Action}
    (unprepared : session.prepared? world.now action = none) :
    session.after world action = session.unloaded world.now action := by
  rw [after, perform_eq, unprepared]

theorem after_complete (session : Session) (world : Surroundings) (ticket : Request)
    (outcome : Option Response) :
    session.after world (.complete ticket outcome) = session.complete world.now ticket outcome :=
  rfl

/-- What recompiling tells the observers: nothing, unless the expression has changed. -/
def recompileNotices (session : Session) : List Notice :=
  if session.query.compile = session.expression then []
  else session.observers.map fun observer => ⟨observer, session.query.compile⟩

theorem recompile_eq (session : Session) :
    session.recompile = { session with
      expression := session.query.compile
      notices := session.notices ++ session.recompileNotices } := by
  unfold recompile recompileNotices
  by_cases same : session.query.compile = session.expression
  · simp [same]
  · simp [same]

@[simp]
theorem cache_recompile (session : Session) : session.recompile.cache = session.cache := by
  rw [recompile_eq]

@[simp]
theorem cache_turnTo (session : Session) (query : Query) :
    (session.turnTo query).cache = session.cache :=
  cache_recompile _

@[simp]
theorem page_turnTo (session : Session) (query : Query) :
    (session.turnTo query).paging.page = 1 := by
  unfold turnTo
  rw [recompile_eq]
  rfl

/-- What a preparation leaves as it was, and what it does to the position. -/
structure Leaves (session prepared : Session) : Prop where
  shown : prepared.shown = session.shown
  sent : prepared.sent = session.sent
  entries : prepared.cache.entries ⊆ session.cache.entries
  maxAge : prepared.cache.maxAge = session.cache.maxAge
  total : prepared.paging.total = session.paging.total
  size : prepared.paging.size = session.paging.size
  page : 1 ≤ session.paging.page → 1 ≤ prepared.paging.page

theorem Leaves.refl (session : Session) : session.Leaves session where
  shown := rfl
  sent := rfl
  entries := List.Subset.refl _
  maxAge := rfl
  total := rfl
  size := rfl
  page := id

theorem Leaves.trans {first second third : Session} (earlier : first.Leaves second)
    (later : second.Leaves third) : first.Leaves third where
  shown := later.shown.trans earlier.shown
  sent := later.sent.trans earlier.sent
  entries := List.Subset.trans later.entries earlier.entries
  maxAge := later.maxAge.trans earlier.maxAge
  total := later.total.trans earlier.total
  size := later.size.trans earlier.size
  page positive := later.page (earlier.page positive)

theorem leaves_turnTo (session : Session) (query : Query) :
    session.Leaves (session.turnTo query) := by
  unfold turnTo
  rw [recompile_eq]
  exact { Leaves.refl session with page := fun _ => UInt64.le_refl 1 }

theorem leaves_query (session : Session) (query : Query) :
    session.Leaves { session with query } :=
  { Leaves.refl session with }

theorem leaves_clear (session : Session) :
    session.Leaves { session with form := session.form.reset, cache := session.cache.clear } :=
  { Leaves.refl session with entries := List.nil_subset _ }

theorem leaves_openBookmark (session : Session) (bookmark : Bookmark) :
    session.Leaves (session.openBookmark bookmark).recompile := by
  rw [recompile_eq]
  exact { Leaves.refl session with
    page := fun _ => Paging.one_le_page_restore session.paging bookmark.page }

theorem leaves_goTo? {session prepared : Session} {page : UInt64}
    (preparation : ((session.paging.goTo? page).map fun paging => { session with paging }) =
      some prepared) :
    session.Leaves prepared := by
  obtain ⟨paging, moved, rfl⟩ := Option.map_eq_some_iff.mp preparation
  obtain ⟨present, rfl⟩ := Paging.goTo?_eq_some_iff.mp moved
  exact { Leaves.refl session with page := fun _ => (Paging.hasPage_eq_true_iff.mp present).1 }

/-- Preparations look at neither the cache nor the engine. -/
theorem leaves_of_prepared? {session prepared : Session} {now : Instant} {action : Action}
    (preparation : session.prepared? now action = some prepared) :
    session.Leaves prepared := by
  cases action with
  | submit | applyForm | toggleFacet | clearFacets | restoreFacets =>
      obtain rfl := Option.some.inj preparation
      exact session.leaves_turnTo _
  | removeFilter position =>
      obtain ⟨filter, _, rfl⟩ := Option.map_eq_some_iff.mp preparation
      exact session.leaves_turnTo _
  | clearAll =>
      obtain rfl := Option.some.inj preparation
      exact session.leaves_clear.trans (leaves_turnTo _ _)
  | goTo | next | previous => exact leaves_goTo? preparation
  | refresh =>
      obtain rfl := Option.some.inj preparation
      exact Leaves.refl session
  | restore bookmark =>
      obtain rfl := Option.some.inj preparation
      exact session.leaves_openBookmark bookmark
  | restoreWithForm bookmark =>
      obtain rfl := Option.some.inj preparation
      exact (session.leaves_query _).trans (leaves_openBookmark _ bookmark)
  | observe | edit | begin | complete | bookmark => cases preparation

end Session

end FacetedSearch
