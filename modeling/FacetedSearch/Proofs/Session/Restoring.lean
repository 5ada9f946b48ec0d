import FacetedSearch.Proofs.Bookmark.Token
import FacetedSearch.Proofs.Paging
import FacetedSearch.Proofs.Session.Aim
import FacetedSearch.Proofs.Session.Coherence

/-!
# Taking up a search from its token

A token is read back as the bookmark of the session that gave it out, and opening this bookmark puts
free text and facets in place as they were: the session had trimmed the one and kept the others
well-formed, so that neither is changed by being opened.  The filters are not in the bookmark, but
the expression has nothing of them but their clauses.  The page is pulled back when the first load
brings fewer pages than there were, and a second load does not move it again.
-/

namespace FacetedSearch

/-- Of the filters, only the clauses enter the expression. -/
theorem Query.compile_congr {query other : Query} (freeText : query.freeText = other.freeText)
    (clauses : query.filters.fragments = other.filters.fragments)
    (facets : query.facets = other.facets) : query.compile = other.compile := by
  simp only [compile, filterPart, freeText, clauses, facets]

namespace Session

variable {session : Session} {settings : Settings}

/-- The page is settled by the first load. -/
theorem page_refresh (session : Session) (world : Surroundings) :
    (session.refresh world).paging.page = (session.load world.first).clamp.paging.page := by
  by_cases reloads : session.Reloads world
  · rw [refresh_of_reloads reloads, paging_load]
    rfl
  · rw [refresh_of_not_reloads reloads]

theorem toNat_page_refresh (session : Session) (world : Surroundings) :
    (session.refresh world).paging.page.toNat =
      min session.paging.page.toNat
        (max 1 ((session.load world.first).shown.total.toNat ⌈/⌉ session.paging.size.toNat)) := by
  rw [page_refresh, clamp, Paging.toNat_page_clamp, Paging.toNat_lastPage, paging_load, shown_load]
  rfl

@[simp]
theorem aim_restore (session : Session) (world : Surroundings) (bookmark : Bookmark) :
    (session.restore world bookmark).aim =
      session.aim.turnTo (session.query.opened bookmark) := by
  rw [restore, aim_refresh, aim_openBookmark]

@[simp]
theorem query_restore (session : Session) (world : Surroundings) (bookmark : Bookmark) :
    (session.restore world bookmark).query = session.query.opened bookmark := by
  have aim := session.aim_restore world bookmark
  generalize session.restore world bookmark = restored at aim ⊢
  exact congrArg Aim.query aim

theorem expression_restore (session : Session) (world : Surroundings) (bookmark : Bookmark) :
    (session.restore world bookmark).expression = (session.query.opened bookmark).compile := by
  have aim := session.aim_restore world bookmark
  generalize session.restore world bookmark = restored at aim ⊢
  exact congrArg Aim.expression aim

theorem shown_load_of_failure {visit : Visit}
    (missing : session.cache.get? session.currentRequest visit.wantedAt = none)
    (failed : visit.engine session.currentRequest = none) :
    (session.load visit).shown = .empty := by
  rw [shown_load, found, missing, failed]
  rfl

@[simp]
theorem paging_openBookmark (session : Session) (bookmark : Bookmark) :
    (session.openBookmark bookmark).recompile.paging = session.paging.restore bookmark.page := by
  rw [recompile_eq]
  rfl

namespace Coherent

theorem opened_bookmark (coherent : session.Coherent settings) (query : Query) :
    query.opened session.bookmark =
      { query with freeText := session.query.freeText, facets := session.query.facets } := by
  unfold Query.opened bookmark
  rw [coherent.query.freeText, coherent.query.facets.ofTable_fields]

end Coherent

/-- A session of which a bookmark is made is found again in any session with pages of the same size
whose filters have the same clauses, if the token is not too long: free text, facets and expression
are the same, whatever was there before and whatever the engine answers.  The page is the same as
well, unless the first load brings fewer pages. -/
theorem restore_ofToken_bookmark {registry : Registry} {steps : List Step} {other : Session}
    (reached : session = (start registry settings).run steps)
    (sameSize : other.paging.size = session.paging.size)
    (sameClauses : other.query.filters.fragments = session.query.filters.fragments)
    (short : (Utf8.encode session.bookmark.token.toList).length ≤ Bookmark.maxTokenLength)
    (world : Surroundings) :
    let opened := (other.openBookmark session.bookmark).recompile
    let shown := (opened.load world.first).shown
    let restored := other.restore world session.bookmark
    Bookmark.ofToken session.bookmark.token = .ok session.bookmark ∧
      restored.query.freeText = session.query.freeText ∧
      restored.query.facets = session.query.facets ∧
      restored.expression = session.expression ∧
      restored.paging.page.toNat =
        min session.paging.page.toNat
          (max 1 (shown.total.toNat ⌈/⌉ session.paging.size.toNat)) ∧
      (opened.cache.get? opened.currentRequest world.first.wantedAt = none →
        world.first.engine opened.currentRequest = none → shown.total = 0) := by
  intro opened shown restored
  have coherent : session.Coherent settings := by
    rw [reached]
    exact (Coherent.start registry settings).run steps
  have read := Bookmark.ofToken_of_utf8_short short
  have query : restored.query = _ := other.query_restore world session.bookmark
  have expression : restored.expression = _ := other.expression_restore world session.bookmark
  have restoring : restored = opened.refresh world := rfl
  have page := opened.toNat_page_refresh world
  have paging : opened.paging = _ := other.paging_openBookmark session.bookmark
  have samePage : opened.paging.page = session.paging.page := by
    rw [paging]
    exact Paging.page_restore_of_one_le coherent.page other.paging
  have size : opened.paging.size = session.paging.size := by
    rw [paging]
    exact sameSize
  -- The session had trimmed its text and pruned its facets, so that opening changes neither.
  rw [coherent.opened_bookmark] at query expression
  rw [← restoring, samePage, size] at page
  refine ⟨read, ?_, ?_, ?_, page, ?_⟩
  · rw [query]
  · rw [query]
  · rw [expression, coherent.compiled]
    exact Query.compile_congr rfl sameClauses rfl
  · intro missing failed
    have empty : shown = .empty := shown_load_of_failure missing failed
    rw [empty]
    rfl

/-- A search with free text, a filter and two facets, on its last page. -/
def savedRun : List Step :=
  ([.edit (.setText "Tributo ACT" "IRPF" .equals), .applyForm, .submit " multa ",
    .toggleFacet "situacao_s" "Aberto", .toggleFacet "grupo_processo_s" "Lançamento",
    .goTo 5] : List Action).map fun action => ⟨uniform .epoch (some 45), action⟩

/-- Another search with the same filter. -/
def otherRun : List Step :=
  ([.edit (.setText "Tributo ACT" " IRPF " .equals), .submit "juros",
    .toggleFacet "grupo_processo_s" "Cobrança", .applyForm] : List Action).map
    fun action => ⟨uniform .epoch (some 7), action⟩

/-- Where fewer pages are found by now, the page is pulled back, and stays there when the second
load fails. -/
theorem restore_ofToken_bookmark_savedRun :
    let session := (start .default .default).run savedRun
    let other := (start .default .default).run otherRun
    let world : Surroundings :=
      ⟨.epoch, (uniform .epoch (some 25)).first, (uniform .epoch none).second⟩
    let restored := other.restore world session.bookmark
    Bookmark.ofToken session.bookmark.token = .ok session.bookmark ∧
      restored.expression = session.expression ∧
      session.paging.page = 5 ∧ restored.paging = ⟨3, 10, 0⟩ := by
  intro session other world restored
  have short : (Utf8.encode session.bookmark.token.toList).length ≤ Bookmark.maxTokenLength := by
    rw [Bookmark.toList_token]
    decide +kernel
  have sameSize : other.paging.size = session.paging.size := by decide +kernel
  have sameClauses : other.query.filters.fragments = session.query.filters.fragments := by
    decide +kernel
  have reached : session = (start .default .default).run savedRun := rfl
  obtain ⟨read, -, -, expression, -⟩ :=
    restore_ofToken_bookmark reached sameSize sameClauses short world
  exact ⟨read, expression, by decide +kernel, by decide +kernel⟩

end Session

end FacetedSearch
