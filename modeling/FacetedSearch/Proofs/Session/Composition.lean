import FacetedSearch.Proofs.Session.Restoring
import FacetedSearch.Proofs.Session.Transparency

/-!
# Restoring with the form, in one step and in two

As long as the cache holds nothing but what the engine answers, a refresh shows what the current
request settles, whatever was on the screen and in the cache before.  So the search in between
leaves no trace when the form is applied first and a bookmark opened then: in one step the same is
searched for, and the same is shown.  One step sends the requests of its own search only.
-/

namespace FacetedSearch

open Calendar

theorem Paging.setTotal_congr {paging other : Paging} (page : paging.page = other.page)
    (size : paging.size = other.size) (total : UInt64) :
    paging.setTotal total = other.setTotal total := by
  simp only [setTotal, page, size]

/-- Whatever an operation loads, it asks the same engine. -/
structure Surroundings.Serves (world : Surroundings) (engine : Request → Option Response) :
    Prop where
  first : world.first.engine = engine
  second : world.second.engine = engine

theorem Surroundings.serves_still (now : Instant) (engine : Request → Option Response) :
    (Surroundings.still now engine).Serves engine :=
  ⟨rfl, rfl⟩

namespace Session

variable {session other : Session} {engine : Request → Option Response} {visit otherVisit : Visit}
  {world otherWorld : Surroundings} {bookmark : Bookmark}

/-- Two sessions ask for the same page, and show the same. -/
structure Coincide (session other : Session) : Prop where
  request : session.currentRequest = other.currentRequest
  paging : session.paging = other.paging
  shown : session.shown = other.shown

theorem Coincide.clamp (coincide : session.Coincide other) :
    session.clamp.Coincide other.clamp := by
  have text := congrArg Request.query coincide.request
  have paging : session.clamp.paging = other.clamp.paging := congrArg Paging.clamp coincide.paging
  refine ⟨?_, paging, coincide.shown⟩
  unfold currentRequest
  rw [paging]
  exact congrArg (Request.mk · _ _) text

/-- What a load shows is settled by the current request. -/
theorem Truthful.coincide_load (truthful : session.Truthful engine)
    (otherTruthful : other.Truthful engine) (visiting : visit.engine = engine)
    (otherVisiting : otherVisit.engine = engine)
    (same : session.currentRequest = other.currentRequest) :
    (session.load visit).Coincide (other.load otherVisit) := by
  have found : session.found visit = other.found otherVisit := by
    rw [truthful.found_eq visiting, otherTruthful.found_eq otherVisiting, same]
  refine ⟨?_, ?_, ?_⟩
  · rw [currentRequest_load, currentRequest_load]
    exact same
  · rw [paging_load, paging_load, found]
    exact Paging.setTotal_congr (congrArg Request.page same) (congrArg Request.size same) _
  · rw [shown_load, shown_load]
    exact found

theorem Coincide.reloads_iff (loaded : (session.load world.first).Coincide
    (other.load otherWorld.first)) : session.Reloads world ↔ other.Reloads otherWorld := by
  unfold Reloads
  rw [← shown_load, ← shown_load, loaded.paging, loaded.shown]

theorem Truthful.coincide_refresh (truthful : session.Truthful engine)
    (otherTruthful : other.Truthful engine) (serves : world.Serves engine)
    (otherServes : otherWorld.Serves engine)
    (same : session.currentRequest = other.currentRequest) :
    (session.refresh world).Coincide (other.refresh otherWorld) := by
  have loaded := truthful.coincide_load otherTruthful serves.first otherServes.first same
  -- Both sessions make the second load, or neither does.
  by_cases reloads : session.Reloads world
  · rw [refresh_of_reloads reloads, refresh_of_reloads (loaded.reloads_iff.mp reloads)]
    have kept : (session.load world.first).clamp.Truthful engine := truthful.load serves.first
    have otherKept : (other.load otherWorld.first).clamp.Truthful engine :=
      otherTruthful.load otherServes.first
    exact kept.coincide_load otherKept serves.second otherServes.second loaded.clamp.request
  · rw [refresh_of_not_reloads reloads, refresh_of_not_reloads (mt loaded.reloads_iff.mpr reloads)]
    exact loaded.clamp

/-! ## Requests of one operation -/

theorem length_loadHandovers_le (session : Session) (visit : Visit) :
    (session.loadHandovers visit).length ≤ 1 := by
  unfold loadHandovers
  split <;> simp

theorem length_refreshHandovers_le (session : Session) (world : Surroundings) :
    (session.refreshHandovers world).length ≤ 2 := by
  have first := session.length_loadHandovers_le world.first
  have second := (session.load world.first).clamp.length_loadHandovers_le world.second
  unfold refreshHandovers
  rw [List.length_append]
  split
  next => omega
  next =>
    rw [List.length_nil]
    omega

theorem aim_of_mem_loadHandovers {moment : Session}
    (membership : moment ∈ session.loadHandovers visit) : moment.aim = session.aim := by
  unfold loadHandovers at membership
  split at membership
  next => cases membership
  next =>
    obtain rfl := List.mem_singleton.mp membership
    rfl

/-- Both requests of a refresh are for the expression that is there. -/
theorem aim_of_mem_refreshHandovers {moment : Session}
    (membership : moment ∈ session.refreshHandovers world) : moment.aim = session.aim := by
  rcases List.mem_append.mp membership with first | second
  · exact aim_of_mem_loadHandovers first
  · split at second
    next => exact (aim_of_mem_loadHandovers second).trans (session.aim_load world.first)
    next => cases second

theorem expression_currentRequest_of_mem {moment : Session}
    (membership : moment ∈ session.refreshHandovers world) :
    moment.currentRequest.query = (session.refresh world).expression.text := by
  have aim := (aim_of_mem_refreshHandovers membership).trans (session.aim_refresh world).symm
  exact congrArg (fun aim : Aim => aim.expression.text) aim

/-- To go back to a bookmark takes two requests at most, for the expression that is left. -/
theorem sent_restore (session : Session) (world : Surroundings) (bookmark : Bookmark) :
    ∃ requests, (session.restore world bookmark).sent = session.sent ++ requests ∧
      requests.length ≤ 2 ∧
      ∀ request ∈ requests, request.query = (session.restore world bookmark).expression.text := by
  unfold restore
  refine ⟨((session.openBookmark bookmark).recompile.refreshHandovers world).map currentRequest,
    ?_, ?_, ?_⟩
  · rw [sent_refresh, (session.leaves_openBookmark bookmark).sent]
  · rw [List.length_map]
    exact length_refreshHandovers_le _ world
  · intro request membership
    obtain ⟨moment, handedOver, rfl⟩ := List.mem_map.mp membership
    exact expression_currentRequest_of_mem handedOver

/-! ## One step and two -/

@[simp]
theorem size_refresh (session : Session) (world : Surroundings) :
    (session.refresh world).paging.size = session.paging.size := by
  refine refresh_preserves (motive := fun loaded => loaded.paging.size = session.paging.size)
    ?_ ?_ rfl
  · intro loading visit _ held
    rw [paging_load]
    exact held
  · exact fun loading held => loading.size_clamp.trans held

/-- Of the session, only the query and the size of a page have a part in what a bookmark shows. -/
theorem Truthful.coincide_restore (truthful : session.Truthful engine)
    (otherTruthful : other.Truthful engine) (serves : world.Serves engine)
    (otherServes : otherWorld.Serves engine) (sameQuery : session.query = other.query)
    (sameSize : session.paging.size = other.paging.size) (bookmark : Bookmark) :
    (session.restore world bookmark).Coincide (other.restore otherWorld bookmark) := by
  have ready := truthful.prepared (session.leaves_openBookmark bookmark)
  have otherReady := otherTruthful.prepared (other.leaves_openBookmark bookmark)
  apply ready.coincide_refresh otherReady serves otherServes
  unfold currentRequest
  rw [paging_openBookmark, paging_openBookmark, recompile_eq, recompile_eq]
  have text := congrArg (fun query : Query => (query.opened bookmark).compile.text) sameQuery
  simp only [Paging.restore, sameSize]
  exact congrArg (Request.mk · _ _) text

@[simp]
theorem form_restore (session : Session) (world : Surroundings) (bookmark : Bookmark) :
    (session.restore world bookmark).form = session.form := by
  have aim := session.aim_restore world bookmark
  generalize session.restore world bookmark = restored at aim ⊢
  exact congrArg Aim.form aim

theorem collected_congr {now later : Instant} (sameDay : now.date = later.date)
    (session : Session) : session.collected now = session.collected later := by
  unfold collected
  rw [sameDay]

/-- The session with the filters of its form, before anything is compiled or loaded. -/
def refiltered (session : Session) (now : Instant) : Session :=
  { session with query := { session.query with filters := session.collected now } }

theorem restoreWithForm_eq (session : Session) (world : Surroundings) (bookmark : Bookmark) :
    session.restoreWithForm world bookmark =
      (session.refiltered world.now).restore world bookmark := by
  unfold restoreWithForm refiltered
  rfl

theorem applyForm_eq (session : Session) (world : Surroundings) :
    session.applyForm world =
      (session.turnTo (session.refiltered world.now).query).refresh world := by
  unfold applyForm requery turnTo refiltered
  rfl

theorem truthful_applyForm (truthful : session.Truthful engine) (serves : world.Serves engine) :
    (session.applyForm world).Truthful engine := by
  rw [applyForm_eq]
  exact (truthful.prepared (session.leaves_turnTo _)).refresh serves.first serves.second

theorem aim_applyForm (session : Session) (world : Surroundings) :
    (session.applyForm world).aim = session.aim.turnTo (session.refiltered world.now).query := by
  rw [applyForm_eq, aim_refresh, aim_turnTo]

@[simp]
theorem size_applyForm (session : Session) (world : Surroundings) :
    (session.applyForm world).paging.size = session.paging.size := by
  rw [applyForm_eq, size_refresh]
  exact (session.leaves_turnTo _).size

/-- From any state whose cache holds only what the engine answers, on one day: to go back to a
bookmark with the filters of the form ends with the same query, form, expression, position and
answer as to apply the form first and to go back to the bookmark then.  In one step at most two
requests are sent, and both are for the expression that is left. -/
theorem restoreWithForm_coincides (truthful : session.Truthful engine)
    {whole applying restoring : Surroundings} (wholeServes : whole.Serves engine)
    (applyingServes : applying.Serves engine) (restoringServes : restoring.Serves engine)
    (sameDay : whole.now.date = applying.now.date) (bookmark : Bookmark) :
    let once := session.restoreWithForm whole bookmark
    let twice := (session.applyForm applying).restore restoring bookmark
    once.query = twice.query ∧ once.form = twice.form ∧ once.expression = twice.expression ∧
      once.paging = twice.paging ∧ once.shown = twice.shown ∧
      ∃ requests, once.sent = session.sent ++ requests ∧ requests.length ≤ 2 ∧
        ∀ request ∈ requests, request.query = once.expression.text := by
  have applied := session.aim_applyForm applying
  have sameSize := session.size_applyForm applying
  have appliedTruthful := truthful_applyForm truthful applyingServes
  rw [restoreWithForm_eq]
  -- All that the search in between has left is forgotten here, but for aim and page size.
  generalize session.applyForm applying = filtered at applied sameSize appliedTruthful ⊢
  have refilteredTruthful : (session.refiltered whole.now).Truthful engine := truthful
  have sameQuery : (session.refiltered whole.now).query = filtered.query := by
    rw [refiltered, session.collected_congr sameDay]
    exact (congrArg Aim.query applied).symm
  have sameForm : filtered.form = session.form := congrArg Aim.form applied
  have coincide := refilteredTruthful.coincide_restore appliedTruthful wholeServes restoringServes
    sameQuery sameSize.symm bookmark
  have sent := (session.refiltered whole.now).sent_restore whole bookmark
  have query := query_restore (session.refiltered whole.now) whole bookmark
  have form := form_restore (session.refiltered whole.now) whole bookmark
  have expression := expression_restore (session.refiltered whole.now) whole bookmark
  refine ⟨?_, ?_, ?_, coincide.paging, coincide.shown, sent⟩
  · rw [query, query_restore, sameQuery]
  · rw [form, form_restore, sameForm]
    rfl
  · rw [expression, expression_restore, sameQuery]

/-- A run that leaves a page in the cache and a filter in the form that is not applied. -/
def pendingRun : List Step :=
  ([.submit "juros", .next, .edit (.setText "Tributo ACT" "IRPF" .equals)] : List Action).map
    fun action => ⟨.still .epoch unevenEngine, action⟩

/-- Both ways end on the last page of the result, whose search fails. -/
theorem restoreWithForm_coincides_pendingRun :
    let session := (start .default .default).run pendingRun
    let world := Surroundings.still ⟨600000000000, by decide, by decide⟩ unevenEngine
    let bookmark : Bookmark :=
      ⟨" multa ", ⟨[("situacao_s", ["Aberto"]), ("grupo_processo_s", [])], by decide⟩, 4⟩
    let once := session.restoreWithForm world bookmark
    let twice := (session.applyForm (.still .epoch unevenEngine)).restore world bookmark
    session.Truthful unevenEngine ∧ session.cache.entries.length = 2 ∧
      once.query = twice.query ∧ once.shown = twice.shown ∧ once.paging = twice.paging ∧
      once.expression.text = "multa tributo_act_s:\"IRPF\" AND ((situacao_s:\"Aberto\"))" ∧
      once.paging = ⟨3, 10, 0⟩ ∧
      (once.sent.drop session.sent.length).map Request.page = [4, 3] := by
  intro session world bookmark once twice
  have faithful : ∀ step ∈ pendingRun, step.Faithful unevenEngine := by
    intro step membership
    simp only [pendingRun, List.map_cons, List.map_nil, List.mem_cons, List.not_mem_nil,
      or_false] at membership
    rcases membership with rfl | rfl | rfl <;> exact ⟨rfl, rfl, fun _ _ acting => nomatch acting⟩
  have truthful : session.Truthful unevenEngine :=
    (truthful_start .default .default).run pendingRun faithful
  have serves : world.Serves unevenEngine := Surroundings.serves_still world.now unevenEngine
  have sameDay : world.now.date = Instant.epoch.date := by decide +kernel
  obtain ⟨query, -, -, paging, shown, -⟩ := restoreWithForm_coincides truthful serves
    (Surroundings.serves_still .epoch unevenEngine) serves sameDay bookmark
  exact ⟨truthful, by decide +kernel, query, shown, paging, by decide +kernel, by decide +kernel,
    by decide +kernel⟩

end Session

end FacetedSearch
