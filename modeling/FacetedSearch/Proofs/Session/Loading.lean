import FacetedSearch.Proofs.Cache
import FacetedSearch.Proofs.Session.Preparation

/-!
What the loading of a page does to a session.

A load shows one answer for the current request, `found`, and changes otherwise only the cache and
the record of what was sent.  `refresh` loads once, or pulls the position back and loads again, or
pulls it back to the first page of a result without entries.
-/

namespace FacetedSearch

open Calendar

namespace Session

variable {session : Session} {visit : Visit} {world : Surroundings}

/-- The answer that a load shows: the one in the cache, or else the one of the engine, or the empty
one when the search fails. -/
def found (session : Session) (visit : Visit) : Response :=
  (session.cache.get? session.currentRequest visit.wantedAt).getD
    ((visit.engine session.currentRequest).getD .empty)

/-- The cache after a load. -/
def cacheAfterLoad (session : Session) (visit : Visit) : Cache Request Response :=
  let looked := session.cache.afterGet session.currentRequest visit.wantedAt
  match session.cache.get? session.currentRequest visit.wantedAt with
  | some _ => looked
  | none =>
      looked.accept session.currentRequest visit.arrivedAt (visit.engine session.currentRequest)

/-- What has been sent to the engine after a load. -/
def sentAfterLoad (session : Session) (visit : Visit) : List Request :=
  match session.cache.get? session.currentRequest visit.wantedAt with
  | some _ => session.sent
  | none => session.sent ++ [session.currentRequest]

theorem complete_of_isCurrent {ticket : Request} (current : session.isCurrent ticket = true)
    (now : Instant) (outcome : Option Response) :
    session.complete now ticket outcome =
      { session with cache := session.cache.accept ticket now outcome }.display
        (outcome.getD .empty) := by
  unfold complete
  rw [current]
  cases outcome <;> rfl

theorem complete_of_not_isCurrent {ticket : Request} (stale : session.isCurrent ticket = false)
    (now : Instant) (outcome : Option Response) :
    session.complete now ticket outcome =
      { session with cache := session.cache.acceptIfAbsent ticket now outcome } := by
  unfold complete
  rw [stale]
  cases outcome <;> rfl

@[simp]
theorem isCurrent_eq_true_iff {ticket : Request} :
    session.isCurrent ticket = true ↔ ticket = session.currentRequest :=
  beq_iff_eq

@[simp]
theorem isCurrent_eq_false_iff {ticket : Request} :
    session.isCurrent ticket = false ↔ ticket ≠ session.currentRequest :=
  beq_eq_false_iff_ne

@[simp]
theorem isCurrent_currentRequest (session : Session) :
    session.isCurrent session.currentRequest = true :=
  isCurrent_eq_true_iff.mpr rfl

theorem load_of_miss
    (missing : session.cache.get? session.currentRequest visit.wantedAt = none) :
    session.load visit =
      { session with
        cache := session.cache.afterGet session.currentRequest visit.wantedAt
        sent := session.sent ++ [session.currentRequest]
      }.complete visit.arrivedAt session.currentRequest
        (visit.engine session.currentRequest) := by
  simp only [load, missing]

theorem load_eq (session : Session) (visit : Visit) :
    session.load visit =
      { session with
        cache := session.cacheAfterLoad visit
        sent := session.sentAfterLoad visit }.display (session.found visit) := by
  simp only [load, cacheAfterLoad, sentAfterLoad, found]
  cases session.cache.get? session.currentRequest visit.wantedAt with
  | some response => rfl
  | none =>
      apply complete_of_isCurrent
      exact isCurrent_currentRequest _

@[simp]
theorem currentRequest_load : (session.load visit).currentRequest = session.currentRequest := by
  rw [load_eq]
  rfl

@[simp]
theorem shown_load : (session.load visit).shown = session.found visit := by
  rw [load_eq]
  rfl

@[simp]
theorem paging_load :
    (session.load visit).paging = session.paging.setTotal (session.found visit).total := by
  rw [load_eq]
  rfl

@[simp]
theorem cache_load : (session.load visit).cache = session.cacheAfterLoad visit := by
  rw [load_eq]
  rfl

theorem every_cacheAfterLoad {property : CacheEntry Request Response → Prop}
    (every : session.cache.Every property)
    (arrived : ∀ response, visit.engine session.currentRequest = some response →
      property ⟨session.currentRequest, response, visit.arrivedAt⟩) :
    (session.cacheAfterLoad visit).Every property := by
  unfold cacheAfterLoad
  split
  next => exact every.afterGet
  next => exact every.afterGet.accept arrived

@[simp]
theorem maxAge_cacheAfterLoad :
    (session.cacheAfterLoad visit).maxAge = session.cache.maxAge := by
  unfold cacheAfterLoad
  split <;> simp

/-- The first load brought a result that ends before the current page, and so a second load
follows, on the last page of that result. -/
def Reloads (session : Session) (world : Surroundings) : Prop :=
  (session.load world.first).paging.isPastEnd = true ∧ 0 < (session.found world.first).total

instance (session : Session) (world : Surroundings) : Decidable (session.Reloads world) :=
  inferInstanceAs (Decidable (_ ∧ _))

theorem refresh_of_reloads (reloads : session.Reloads world) :
    session.refresh world = (session.load world.first).clamp.load world.second := by
  unfold refresh
  simp only [reloads.1, shown_load, reloads.2, if_true]

theorem clamp_of_not_isPastEnd (inside : session.paging.isPastEnd = false) :
    session.clamp = session := by
  have unmoved : session.paging.clamp = session.paging :=
    if_pos (Paging.isPastEnd_eq_false_iff.mp inside)
  rw [clamp, unmoved]

theorem refresh_of_not_reloads (reloadsNot : ¬session.Reloads world) :
    session.refresh world = (session.load world.first).clamp := by
  unfold refresh
  cases past : (session.load world.first).paging.isPastEnd with
  | true =>
      have empty : ¬0 < (session.found world.first).total := fun full => reloadsNot ⟨past, full⟩
      simp only [past, if_true, shown_load, if_neg empty]
  | false =>
      rw [clamp_of_not_isPastEnd past]
      simp only [past, Bool.false_eq_true, if_false]

/-- What holds after every load, and is not touched by pulling the position back, holds after a
refresh. -/
theorem refresh_preserves {motive : Session → Prop}
    (load : ∀ session visit, (visit = world.first ∨ visit = world.second) →
      motive session → motive (session.load visit))
    (clamp : ∀ session, motive session → motive session.clamp)
    (before : motive session) : motive (session.refresh world) := by
  have loaded := load session world.first (.inl rfl) before
  by_cases reloads : session.Reloads world
  · rw [refresh_of_reloads reloads]
    exact load _ world.second (.inr rfl) (clamp _ loaded)
  · rw [refresh_of_not_reloads reloads]
    exact clamp _ loaded

end Session

end FacetedSearch
