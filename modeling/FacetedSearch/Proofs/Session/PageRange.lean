import FacetedSearch.Proofs.Session.Loading

/-!
# Which page a refresh leaves

A refresh pulls the position back to the last page of what its first load brought.  It does not do
so again after its second load, which may come from the cache or from an engine that has changed
its mind.  So the position is in range exactly when the second load brings no fewer pages than the
position was pulled back to.
-/

namespace FacetedSearch.Session

open Calendar

variable {session : Session}

/-- The second load of a refresh, where there is one, brings at least as many pages as the position
was pulled back to. -/
def KeepsPages (session : Session) (world : Surroundings) : Prop :=
  session.Reloads world →
    let loaded := session.load world.first
    loaded.paging.lastPage ≤
      (loaded.paging.setTotal (loaded.clamp.found world.second).total).lastPage

instance (session : Session) (world : Surroundings) : Decidable (session.KeepsPages world) :=
  inferInstanceAs (Decidable (_ → _))

theorem one_le_page_clamp (positive : 1 ≤ session.paging.page) :
    1 ≤ session.clamp.paging.page := by
  unfold clamp Paging.clamp
  split
  next => exact positive
  next => exact session.paging.one_le_lastPage

theorem one_le_page_refresh (positive : 1 ≤ session.paging.page) (world : Surroundings) :
    1 ≤ (session.refresh world).paging.page := by
  refine refresh_preserves (motive := fun session => 1 ≤ session.paging.page) ?_ ?_ positive
  · intro loading visit _ held
    rw [paging_load]
    exact held
  · intro loading held
    exact one_le_page_clamp held

@[simp]
theorem page_complete (session : Session) (now : Instant) (ticket : Request)
    (outcome : Option Response) :
    (session.complete now ticket outcome).paging.page = session.paging.page := by
  cases current : session.isCurrent ticket with
  | true =>
      rw [complete_of_isCurrent current]
      rfl
  | false => rw [complete_of_not_isCurrent current]

theorem one_le_page_after (positive : 1 ≤ session.paging.page) (world : Surroundings)
    (action : Action) : 1 ≤ (session.after world action).paging.page := by
  cases preparation : session.prepared? world.now action with
  | some prepared =>
      rw [after_eq_refresh preparation]
      exact one_le_page_refresh ((leaves_of_prepared? preparation).page positive) world
  | none =>
      rw [after_eq_unloaded preparation]
      cases action with
      | complete ticket outcome =>
          have kept := session.page_complete world.now ticket outcome
          exact kept ▸ positive
      | _ => exact positive

theorem one_le_page_run (positive : 1 ≤ session.paging.page) (steps : List Step) :
    1 ≤ (session.run steps).paging.page := by
  induction steps generalizing session with
  | nil => exact positive
  | cons step rest inductionHypothesis =>
      exact inductionHypothesis (one_le_page_after positive step.world step.action)

/-- A result without entries is shown on its first page, with nowhere to go, exactly when the
position is in range. -/
theorem atRest_iff_inRange {paging : Paging} (positive : 1 ≤ paging.page)
    (empty : paging.total = 0) :
    paging.page = 1 ∧ paging.navigation = ⟨false, false⟩ ↔ paging.InRange := by
  have single := Paging.lastPage_of_total_eq_zero empty
  unfold Paging.InRange
  rw [single]
  constructor
  · rintro ⟨first, _⟩
    rw [first]
    exact ⟨UInt64.le_refl 1, UInt64.le_refl 1⟩
  · rintro ⟨_, below⟩
    have first : paging.page = 1 := UInt64.le_antisymm below positive
    refine ⟨first, ?_⟩
    unfold Paging.navigation
    rw [first, Paging.pages_of_total_eq_zero empty]
    rfl

theorem inRange_clamp (positive : 1 ≤ session.paging.page) : session.clamp.paging.InRange := by
  refine ⟨one_le_page_clamp positive, ?_⟩
  cases past : session.paging.isPastEnd with
  | true =>
      unfold clamp
      rw [Paging.clamp_of_isPastEnd past]
      exact UInt64.le_refl _
  | false =>
      rw [clamp_of_not_isPastEnd past]
      exact Paging.isPastEnd_eq_false_iff.mp past

/-- The first page is never past the end, so a refresh of it loads once. -/
theorem refresh_of_page_eq_one (first : session.paging.page = 1) (world : Surroundings) :
    session.refresh world = session.load world.first := by
  have inside : (session.load world.first).paging.isPastEnd = false := by
    have page : (session.load world.first).paging.page = 1 := by
      rw [paging_load]
      exact first
    rw [Paging.isPastEnd_eq_false_iff, page]
    exact Paging.one_le_lastPage _
  have single : ¬session.Reloads world := by
    rintro ⟨past, -⟩
    rw [inside] at past
    cases past
  rw [refresh_of_not_reloads single, clamp_of_not_isPastEnd inside]

theorem refresh_turnTo (session : Session) (query : Query) (world : Surroundings) :
    (session.turnTo query).refresh world = (session.turnTo query).load world.first :=
  refresh_of_page_eq_one (session.page_turnTo query) world

theorem inRange_refresh_iff (positive : 1 ≤ session.paging.page) (world : Surroundings) :
    (session.refresh world).paging.InRange ↔ session.KeepsPages world := by
  have loaded : 1 ≤ (session.load world.first).paging.page := by
    rw [paging_load]
    exact positive
  by_cases reloads : session.Reloads world
  · have pulled : (session.load world.first).clamp.paging =
        { (session.load world.first).paging with
          page := (session.load world.first).paging.lastPage } :=
      Paging.clamp_of_isPastEnd reloads.1
    unfold KeepsPages Paging.InRange
    rw [refresh_of_reloads reloads, paging_load, pulled]
    constructor
    · exact fun range _ => range.2
    · exact fun keeps => ⟨Paging.one_le_lastPage _, keeps reloads⟩
  · rw [refresh_of_not_reloads reloads]
    constructor
    · exact fun _ reloading => absurd reloading reloads
    · exact fun _ => inRange_clamp loaded

/-- After every step of every run that loads a page, the position is in range exactly when the
second load of the step, if it made one, brought no fewer pages than the first had left; and so is
a result without entries shown on its first page with both buttons off. -/
theorem inRange_after_iff (registry : Registry) (settings : Settings) (steps : List Step)
    (world : Surroundings) (action : Action) {prepared : Session}
    (preparation :
      ((start registry settings).run steps).prepared? world.now action = some prepared) :
    let paging := (((start registry settings).run steps).after world action).paging
    1 ≤ paging.page ∧
      (paging.page ≤ paging.lastPage ↔ prepared.KeepsPages world) ∧
      (paging.total = 0 →
        (paging.page = 1 ∧ paging.navigation = ⟨false, false⟩ ↔ prepared.KeepsPages world)) := by
  have started : 1 ≤ (start registry settings).paging.page := UInt64.le_refl 1
  have positive := one_le_page_run started steps
  have ready := (leaves_of_prepared? preparation).page positive
  have inRange := inRange_refresh_iff ready world
  have shown := one_le_page_refresh ready world
  rw [after_eq_refresh preparation]
  refine ⟨shown, ?_, ?_⟩
  · rw [← inRange]
    exact ⟨fun below => ⟨shown, below⟩, fun range => range.2⟩
  · intro empty
    rw [atRest_iff_inRange shown empty]
    exact inRange

/-- Surroundings at a time in which every request is answered by the same number of results, or by
none when the engine is down. -/
def uniform (now : Instant) (total : Option UInt64) : Surroundings :=
  .still now fun _ => total.map fun total => ⟨[], total, .empty⟩

/-- The position of page nine in a result of three pages is pulled back to the third. -/
theorem inRange_after_pulledBack :
    ((start .default .default).run []).prepared? (uniform .epoch (some 25)).now
        (.restore ⟨"", .empty, 9⟩) =
      some ((start .default .default).openBookmark ⟨"", .empty, 9⟩).recompile ∧
    ((start .default .default).openBookmark ⟨"", .empty, 9⟩).recompile.Reloads
      (uniform .epoch (some 25)) ∧
    (((start .default .default).run []).after (uniform .epoch (some 25))
      (.restore ⟨"", .empty, 9⟩)).paging.page ≤
    (((start .default .default).run []).after (uniform .epoch (some 25))
      (.restore ⟨"", .empty, 9⟩)).paging.lastPage := by
  have preparation : ((start .default .default).run []).prepared?
      (uniform .epoch (some 25)).now (.restore ⟨"", .empty, 9⟩) =
        some ((start .default .default).openBookmark ⟨"", .empty, 9⟩).recompile := rfl
  have keeps : ((start .default .default).openBookmark ⟨"", .empty, 9⟩).recompile.KeepsPages
      (uniform .epoch (some 25)) := by decide +kernel
  have inRange := inRange_after_iff .default .default [] (uniform .epoch (some 25))
    (.restore ⟨"", .empty, 9⟩) preparation
  exact ⟨preparation, by decide +kernel, inRange.2.1.mpr keeps⟩

/-- A run whose last step finds the result in the cache, pulls the position back to the third page,
whose entry has grown too old, and then fails to load that page. -/
def failingReload : List Step :=
  [⟨uniform .epoch (some 25), .restore ⟨"", .empty, 3⟩⟩,
    ⟨uniform ⟨200000000000, by decide, by decide⟩ (some 25), .restore ⟨"", .empty, 9⟩⟩,
    ⟨uniform ⟨400000000000, by decide, by decide⟩ none, .restore ⟨"", .empty, 9⟩⟩]

theorem not_inRange_failingReload :
    ((start .default .default).run failingReload).paging = ⟨3, 10, 0⟩ ∧
      ¬((start .default .default).run failingReload).paging.InRange ∧
      ((start .default .default).run failingReload).paging.navigation = ⟨true, false⟩ := by
  decide +kernel

end FacetedSearch.Session
