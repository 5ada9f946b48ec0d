import FacetedSearch.Proofs.Form.Rows
import FacetedSearch.Proofs.Session.Aim
import FacetedSearch.Proofs.Session.Coherence

/-!
# A clean slate

Emptying a session leaves its free text and the labels of its form.  The cache is emptied before the
page is loaded and the first page is never past the end, so that one request is sent whatever was
cached, and what comes of it is all that the cache holds and the screen shows.
-/

namespace FacetedSearch

open Calendar

namespace Query

theorem base_of_trimmed {freeText : String} (tidy : Text.trimmed freeText = freeText) :
    base freeText = if freeText = "" then matchAll else freeText := by
  unfold base Text.filled?
  rw [tidy]
  by_cases empty : freeText = ""
  · simp [empty]
  · simp [empty, String.isEmpty_iff]

theorem compile_without_filters_facets (freeText : String) :
    compile ⟨freeText, .empty, .empty⟩ = ⟨base freeText⟩ := by
  have nothing : filterPart .empty = "" ∧ facetPart .empty = "" := ⟨rfl, rfl⟩
  unfold compile
  rw [nothing.1, nothing.2, String.append_empty, String.append_empty]

end Query

namespace Session

variable {session : Session} {visit : Visit}

theorem found_of_entries_eq_nil (empty : session.cache.entries = []) :
    session.found visit = (visit.engine session.currentRequest).getD .empty := by
  unfold found
  rw [Cache.get?_of_entries_eq_nil empty]
  rfl

theorem sentAfterLoad_of_entries_eq_nil (empty : session.cache.entries = []) :
    session.sentAfterLoad visit = session.sent ++ [session.currentRequest] := by
  unfold sentAfterLoad
  rw [Cache.get?_of_entries_eq_nil empty]

theorem entries_cacheAfterLoad_of_eq_nil (empty : session.cache.entries = []) :
    (session.cacheAfterLoad visit).entries =
      (visit.engine session.currentRequest).toList.map fun response =>
        ⟨session.currentRequest, response, visit.arrivedAt⟩ := by
  unfold cacheAfterLoad
  rw [Cache.get?_of_entries_eq_nil empty]
  exact Cache.entries_accept_of_eq_nil (Cache.entries_afterGet_of_eq_nil empty _ _) _ _ _

/-- The session that is emptied, before its page is loaded. -/
def emptied (session : Session) : Session :=
  { session with form := session.form.reset, cache := session.cache.clear }.turnTo
    { session.query with filters := .empty, facets := .empty }

theorem leaves_emptied (session : Session) : session.Leaves session.emptied :=
  session.leaves_clear.trans (leaves_turnTo _ _)

@[simp]
theorem entries_emptied (session : Session) : session.emptied.cache.entries = [] := by
  unfold emptied
  rw [cache_turnTo]
  rfl

theorem after_clearAll (session : Session) (world : Surroundings) :
    session.after world .clearAll = session.emptied.load world.first := by
  have preparation : session.prepared? world.now .clearAll = some session.emptied := rfl
  rw [after_eq_refresh preparation]
  exact refresh_turnTo _ _ world

theorem currentRequest_emptied
    (tidy : Text.trimmed session.query.freeText = session.query.freeText) :
    session.emptied.currentRequest =
      ⟨if session.query.freeText = "" then Query.matchAll else session.query.freeText, 1,
        session.paging.size⟩ := by
  rw [← Query.base_of_trimmed tidy]
  unfold emptied turnTo
  rw [recompile_eq]
  unfold currentRequest
  rw [Query.compile_without_filters_facets]
  rfl

/-- A session that is emptied, after whatever was done before, keeps its free text and the labels of
its form, and nothing else is left of what was searched for.  The first page of the free text, or of
all documents, has been asked for once, in whatever state the cache was.  If an answer came, it is
on the screen and alone in the cache; if the search failed, both are empty. -/
theorem clearAll_keeps_freeText (registry : Registry) (settings : Settings) (steps : List Step)
    (world : Surroundings) :
    let session := (start registry settings).run steps
    let cleared := session.after world .clearAll
    let request : Request :=
      ⟨if session.query.freeText = "" then Query.matchAll else session.query.freeText, 1,
        session.paging.size⟩
    cleared.query = ⟨session.query.freeText, .empty, .empty⟩ ∧
    (cleared.form.IsBlank ∧ cleared.form.textLabels = session.form.textLabels ∧
      cleared.form.dateLabels = session.form.dateLabels ∧
      ∀ today, cleared.form.collect cleared.registry today = []) ∧
    cleared.expression = ⟨request.query⟩ ∧
    cleared.paging = ⟨1, session.paging.size, cleared.shown.total⟩ ∧
    cleared.sent = session.sent ++ [request] ∧
    match world.first.engine request with
    | some response =>
        cleared.shown = response ∧
          cleared.cache.entries = [⟨request, response, world.first.arrivedAt⟩]
    | none => cleared.shown = .empty ∧ cleared.cache.entries = [] := by
  intro session
  have coherent : session.Coherent settings := (Coherent.start registry settings).run steps
  have coherentAfter := coherent.after world .clearAll
  have aim := session.aim_after world .clearAll
  have loaded := session.after_clearAll world
  generalize session.after world .clearAll = after at coherentAfter aim loaded ⊢
  intro cleared request
  have asked : session.emptied.currentRequest = request :=
    currentRequest_emptied coherent.query.freeText
  have emptied : session.emptied.cache.entries = [] := session.entries_emptied
  have current : after.currentRequest = request := by
    rw [loaded, currentRequest_load, asked]
  have form : after.form = session.form.reset := congrArg Aim.form aim
  have shown : after.shown = (world.first.engine request).getD .empty := by
    rw [loaded, shown_load, found_of_entries_eq_nil emptied, asked]
  have entries : after.cache.entries = (world.first.engine request).toList.map fun response =>
      ⟨request, response, world.first.arrivedAt⟩ := by
    rw [loaded, cache_load, entries_cacheAfterLoad_of_eq_nil emptied, asked]
  have sent : after.sent = session.sent ++ [request] := by
    rw [loaded, sent_load, sentAfterLoad_of_entries_eq_nil emptied, asked,
      session.leaves_emptied.sent]
  refine ⟨congrArg Aim.query aim, ?_, ?_, ?_, sent, ?_⟩
  · change after.form.IsBlank ∧ _
    rw [form]
    exact ⟨session.form.isBlank_reset, session.form.textLabels_reset, session.form.dateLabels_reset,
      session.form.isBlank_reset.collect cleared.registry⟩
  · exact congrArg (fun current : Request => Expression.mk current.query) current
  · have page : after.paging.page = 1 := congrArg Request.page current
    have size : after.paging.size = session.paging.size := congrArg Request.size current
    rw [← coherentAfter.total, ← page, ← size]
  · rw [shown, entries]
    cases world.first.engine request with
    | some response => exact ⟨rfl, rfl⟩
    | none => exact ⟨rfl, rfl⟩

end Session

end FacetedSearch
