import FacetedSearch.Proofs.Session.Loading

/-!
# The cache is never seen

A direct session has no use for a cache: each load asks the engine, and nothing is kept.  As long
as the engine has one answer for each request, a session and a direct session show the same after
every step of every run, however the clock moves and however old an answer may become.

The invariant is `Truthful`: every entry of the cache, too old or not, is what the engine answers to
its key.  It does not mention time, so expiry can neither break it nor is needed for it.
-/

namespace FacetedSearch

open Calendar

namespace Session

/-- What can be seen of a session from outside. -/
structure View where
  shown : Response
  paging : Paging
  navigation : Navigation
  query : Query
  expression : Expression
  form : Form
  notices : List Notice

def view (session : Session) : View where
  shown := session.shown
  paging := session.paging
  navigation := session.paging.navigation
  query := session.query
  expression := session.expression
  form := session.form
  notices := session.notices

/-- The answers and views of a run, one after each step. -/
def trace (session : Session) : List Step → List (Answer × View)
  | [] => []
  | step :: rest =>
      let (answer, after) := session.perform step.world step.action
      (answer, after.view) :: after.trace rest

/-- Shows what the engine answers to the current request. -/
def loadDirect (session : Session) (visit : Visit) : Session :=
  session.display ((visit.engine session.currentRequest).getD .empty)

def refreshDirect (session : Session) (world : Surroundings) : Session :=
  let loaded := session.loadDirect world.first
  if loaded.paging.isPastEnd then
    if 0 < loaded.shown.total then loaded.clamp.loadDirect world.second else loaded.clamp
  else loaded

/-- Shows the outcome of the current request, and has no place for any other. -/
def completeDirect (session : Session) (request : Request) (outcome : Option Response) : Session :=
  if session.isCurrent request then session.display (outcome.getD .empty) else session

def unloadedDirect (session : Session) : Action → Session
  | .observe observer => session.observe observer
  | .edit change => session.edit change
  | .complete ticket outcome => session.completeDirect ticket outcome
  | _ => session

/-- Performs an action as `perform` does, except that every load asks the engine. -/
def performDirect (session : Session) (world : Surroundings) (action : Action) :
    Answer × Session :=
  (session.answer action,
    match session.prepared? world.now action with
    | some prepared => prepared.refreshDirect world
    | none => session.unloadedDirect action)

def traceDirect (session : Session) : List Step → List (Answer × View)
  | [] => []
  | step :: rest =>
      let (answer, after) := session.performDirect step.world step.action
      (answer, after.view) :: after.traceDirect rest

/-- The session without what its cache holds and without the record of what was sent. -/
def bare (session : Session) : Session :=
  { session with cache := .empty Settings.defaultMaxAge, sent := [] }

end Session

/-- The engine answers during a step as it always does, and an outcome that is brought to the
session is the engine's outcome for the request. -/
structure Step.Faithful (engine : Request → Option Response) (step : Step) : Prop where
  first : step.world.first.engine = engine
  second : step.world.second.engine = engine
  outcome : ∀ ticket outcome, step.action = .complete ticket outcome → outcome = engine ticket

namespace Session

variable {session : Session} {engine : Request → Option Response} {visit : Visit}
  {world : Surroundings}

/-- Every entry of the cache is what the engine answers to its key. -/
def Truthful (engine : Request → Option Response) (session : Session) : Prop :=
  session.cache.Every fun entry => engine entry.key = some entry.value

theorem truthful_start (registry : Registry) (settings : Settings) :
    (start registry settings).Truthful engine :=
  fun _ membership => nomatch membership

theorem Truthful.load (truthful : session.Truthful engine) (visiting : visit.engine = engine) :
    (session.load visit).Truthful engine := by
  unfold Truthful
  rw [cache_load]
  apply every_cacheAfterLoad truthful
  intro response answered
  rw [← visiting]
  exact answered

theorem Truthful.refresh (truthful : session.Truthful engine)
    (first : world.first.engine = engine) (second : world.second.engine = engine) :
    (session.refresh world).Truthful engine := by
  refine refresh_preserves ?_ ?_ truthful
  · rintro loading visit (rfl | rfl) held
    · exact held.load first
    · exact held.load second
  · exact fun _ held => held

theorem Truthful.complete (truthful : session.Truthful engine) (now : Instant)
    (ticket : Request) : (session.complete now ticket (engine ticket)).Truthful engine := by
  cases current : session.isCurrent ticket with
  | true =>
      rw [complete_of_isCurrent current]
      exact truthful.accept fun _ answered => answered
  | false =>
      rw [complete_of_not_isCurrent current]
      exact truthful.acceptIfAbsent fun _ answered => answered

theorem Truthful.prepared {prepared : Session} (truthful : session.Truthful engine)
    (leaves : session.Leaves prepared) : prepared.Truthful engine :=
  fun entry membership => truthful entry (leaves.entries membership)

/-- What the cache of a truthful session holds, the engine would have answered. -/
theorem Truthful.found_eq (truthful : session.Truthful engine) (visiting : visit.engine = engine) :
    session.found visit = (engine session.currentRequest).getD .empty := by
  unfold found
  rw [visiting]
  cases cached : session.cache.get? session.currentRequest visit.wantedAt with
  | none => rfl
  | some response =>
      obtain ⟨storedAt, membership, _⟩ := Cache.exists_of_get?_eq_some cached
      have answered : engine session.currentRequest = some response := truthful _ membership
      rw [answered]
      rfl

@[simp]
theorem paging_bare : session.bare.paging = session.paging := rfl

@[simp]
theorem shown_bare : session.bare.shown = session.shown := rfl

@[simp]
theorem view_bare : session.bare.view = session.view := rfl

@[simp]
theorem clamp_bare : session.bare.clamp = session.clamp.bare := rfl

theorem Truthful.bare_load (truthful : session.Truthful engine)
    (visiting : visit.engine = engine) :
    (session.load visit).bare = session.bare.loadDirect visit := by
  rw [load_eq, truthful.found_eq visiting, loadDirect, visiting]
  rfl

theorem Truthful.bare_refresh (truthful : session.Truthful engine)
    (first : world.first.engine = engine) (second : world.second.engine = engine) :
    (session.refresh world).bare = session.bare.refreshDirect world := by
  have reloaded : (session.load world.first).clamp.Truthful engine := truthful.load first
  simp only [Session.refresh, refreshDirect, ← truthful.bare_load first, paging_bare, shown_bare,
    clamp_bare, ← reloaded.bare_load second]
  split
  next past => split <;> rfl
  next inside => rfl

@[simp]
theorem bare_recompile (session : Session) : session.recompile.bare = session.bare.recompile := by
  rw [recompile_eq, recompile_eq]
  rfl

/-- Preparations do not depend on the cache. -/
theorem bare_prepared? (session : Session) (now : Instant) (action : Action) :
    (session.prepared? now action).map bare = session.bare.prepared? now action := by
  cases action with
  | submit | applyForm | clearAll | toggleFacet | clearFacets | restoreFacets | restore
  | restoreWithForm => exact congrArg some (bare_recompile _)
  | removeFilter position =>
      simp only [prepared?, Option.map_map]
      apply Option.map_congr
      intro filter _
      exact bare_recompile _
  | goTo | next | previous => simp only [prepared?, Option.map_map]; rfl
  | refresh | observe | edit | begin | complete | bookmark => rfl

theorem bare_complete (session : Session) (now : Instant) (ticket : Request)
    (outcome : Option Response) :
    (session.complete now ticket outcome).bare = session.bare.completeDirect ticket outcome := by
  unfold completeDirect
  have same : session.bare.isCurrent ticket = session.isCurrent ticket := rfl
  rw [same]
  cases current : session.isCurrent ticket with
  | true =>
      rw [complete_of_isCurrent current]
      rfl
  | false =>
      rw [complete_of_not_isCurrent current]
      rfl

theorem bare_unloaded (session : Session) (now : Instant) (action : Action) :
    (session.unloaded now action).bare = session.bare.unloadedDirect action := by
  cases action with
  | complete ticket outcome => exact session.bare_complete now ticket outcome
  | _ => rfl

@[simp]
theorem answer_bare (session : Session) (action : Action) :
    session.bare.answer action = session.answer action := by
  cases action <;> rfl

theorem Truthful.unloaded {step : Step} (truthful : session.Truthful engine)
    (faithful : step.Faithful engine) :
    (session.unloaded step.world.now step.action).Truthful engine := by
  cases acting : step.action with
  | complete ticket outcome =>
      rw [faithful.outcome ticket outcome acting]
      exact truthful.complete step.world.now ticket
  | _ => exact truthful

theorem Truthful.after {step : Step} (truthful : session.Truthful engine)
    (faithful : step.Faithful engine) :
    (session.after step.world step.action).Truthful engine := by
  cases preparation : session.prepared? step.world.now step.action with
  | some prepared =>
      rw [after_eq_refresh preparation]
      have ready := truthful.prepared (leaves_of_prepared? preparation)
      exact ready.refresh faithful.first faithful.second
  | none =>
      rw [after_eq_unloaded preparation]
      exact truthful.unloaded faithful

theorem Truthful.run (truthful : session.Truthful engine) (steps : List Step)
    (faithful : ∀ step ∈ steps, step.Faithful engine) : (session.run steps).Truthful engine := by
  induction steps generalizing session with
  | nil => exact truthful
  | cons step rest inductionHypothesis =>
      have now := faithful step List.mem_cons_self
      have later := fun other membership => faithful other (List.mem_cons_of_mem step membership)
      exact inductionHypothesis (truthful.after now) later

theorem Truthful.bare_after {step : Step} (truthful : session.Truthful engine)
    (faithful : step.Faithful engine) :
    (session.after step.world step.action).bare =
      (session.bare.performDirect step.world step.action).2 := by
  unfold performDirect
  rw [← bare_prepared?]
  cases preparation : session.prepared? step.world.now step.action with
  | some prepared =>
      rw [after_eq_refresh preparation]
      have ready := truthful.prepared (leaves_of_prepared? preparation)
      exact ready.bare_refresh faithful.first faithful.second
  | none =>
      rw [after_eq_unloaded preparation]
      exact session.bare_unloaded step.world.now step.action

theorem Truthful.trace_eq (truthful : session.Truthful engine) (steps : List Step)
    (faithful : ∀ step ∈ steps, step.Faithful engine) :
    session.trace steps = session.bare.traceDirect steps := by
  induction steps generalizing session with
  | nil => rfl
  | cons step rest inductionHypothesis =>
      have now := faithful step List.mem_cons_self
      have later := fun other membership => faithful other (List.mem_cons_of_mem step membership)
      have continued := inductionHypothesis (truthful.after now) later
      have same : (session.perform step.world step.action).1 =
          (session.bare.performDirect step.world step.action).1 := by
        rw [perform_eq]
        exact (session.answer_bare step.action).symm
      have moved := truthful.bare_after now
      have seen : (session.after step.world step.action).view =
          (session.bare.performDirect step.world step.action).2.view := by
        rw [← view_bare, moved]
      rw [moved] at continued
      simp only [trace, traceDirect]
      rw [← same, ← seen, ← continued]
      rfl

/-- After every step of a run over an engine with one answer for each request, a new session has
answered and shows what a session without a cache has answered and shows. -/
theorem trace_eq_traceDirect (registry : Registry) (settings : Settings)
    (engine : Request → Option Response) (steps : List Step)
    (faithful : ∀ step ∈ steps, step.Faithful engine) :
    (start registry settings).trace steps = (start registry settings).bare.traceDirect steps :=
  (truthful_start registry settings).trace_eq steps faithful

/-- An engine that finds less when it is asked for a far page, and fails on the third. -/
def unevenEngine (request : Request) : Option Response :=
  if request.page = 3 then none
  else if request.page = 9 then some ⟨[], 12, .empty⟩
  else some ⟨[], 25, .empty⟩

/-- A run in which answers are taken from the cache, one of them having entered it behind the
screen, in which one grows too old, and in which a position is pulled back. -/
def unevenRun : List Step :=
  let early := Surroundings.still .epoch unevenEngine
  let late := Surroundings.still ⟨600000000000, by decide, by decide⟩ unevenEngine
  [⟨early, .refresh⟩, ⟨early, .complete ⟨"*:*", 2, 10⟩ (unevenEngine ⟨"*:*", 2, 10⟩)⟩,
    ⟨early, .goTo 2⟩, ⟨late, .previous⟩, ⟨late, .goTo 3⟩, ⟨early, .restore ⟨"", .empty, 9⟩⟩]

theorem trace_eq_traceDirect_unevenRun :
    (∀ step ∈ unevenRun, step.Faithful unevenEngine) ∧
      ((start .default .default).run unevenRun).cache.hits = 2 ∧
      ((start .default .default).run unevenRun).cache.expired = 1 ∧
      (start .default .default).trace unevenRun =
        (start .default .default).bare.traceDirect unevenRun := by
  have faithful : ∀ step ∈ unevenRun, step.Faithful unevenEngine := by
    intro step membership
    simp only [unevenRun, List.mem_cons, List.not_mem_nil, or_false] at membership
    rcases membership with rfl | rfl | rfl | rfl | rfl | rfl <;>
      exact ⟨rfl, rfl, fun _ _ acting => by cases acting <;> rfl⟩
  exact ⟨faithful, by decide +kernel, by decide +kernel,
    trace_eq_traceDirect .default .default unevenEngine unevenRun faithful⟩

end Session

end FacetedSearch
