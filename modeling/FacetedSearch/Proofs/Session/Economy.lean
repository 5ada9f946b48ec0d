import FacetedSearch.Proofs.Session.Handover
import FacetedSearch.Proofs.Session.PageRange
import Mathlib.Data.List.Chain

/-!
# No search is sent without need

As long as the clock does not go back, the entry that the answer to a search has left in the cache
is replaced by later ones only, and it is dropped only when it has grown too old, or with all
others.  So a search is sent again after an answer only when the answer has grown too old since it
arrived, or the cache has been emptied; `Recalls` is the invariant that says so.
-/

namespace FacetedSearch

open Calendar

structure Search where
  request : Request
  sentAt : Instant
  outcome : Option Response
  arrivedAt : Instant
deriving DecidableEq

/-- What a session does that its later searches depend on. -/
inductive Deed where
  | searched (search : Search)
  | cleared
deriving DecidableEq

/-- The answered searches since the cache was last emptied, from those before a deed. -/
def Deed.remember (held : List Search) : Deed → List Search
  | .searched search => if search.outcome.isSome then search :: held else held
  | .cleared => []

def remembered (held : List Search) (deeds : List Deed) : List Search :=
  deeds.foldl Deed.remember held

def Deed.search? : Deed → Option Search
  | .searched search => some search
  | .cleared => none

/-- Earlier answers to the request of a search have grown too old when it is sent. -/
def Search.IsNeeded (maxAge : Duration) (held : List Search) (search : Search) : Prop :=
  ∀ first ∈ held, first.request = search.request →
    first.sentAt.nanos ≤ first.arrivedAt.nanos ∧
      maxAge.nanos < search.sentAt.nanos - first.arrivedAt.nanos

def Frugal (maxAge : Duration) (held : List Search) : List Deed → Prop
  | [] => True
  | deed :: rest =>
      (∀ search ∈ deed.search?, search.IsNeeded maxAge held) ∧
        Frugal maxAge (deed.remember held) rest

/-- What the clock shows during an operation, in order.  Readings that an operation does not take
may stand for any times in between. -/
def Surroundings.readings (world : Surroundings) : List Int :=
  [world.now, world.first.wantedAt, world.first.arrivedAt, world.second.wantedAt,
    world.second.arrivedAt].map (·.nanos)

def readings (steps : List Step) : List Int :=
  steps.flatMap (·.world.readings)

/-! ## Deeds -/

section Deeds

variable {maxAge : Duration} {held : List Search} {first second : List Deed}

@[simp]
theorem remembered_append (held : List Search) (first second : List Deed) :
    remembered held (first ++ second) = remembered (remembered held first) second :=
  List.foldl_append

@[simp]
theorem frugal_append :
    Frugal maxAge held (first ++ second) ↔
      Frugal maxAge held first ∧ Frugal maxAge (remembered held first) second := by
  induction first generalizing held with
  | nil => simp [Frugal, remembered]
  | cons deed rest inductionHypothesis =>
      rw [List.cons_append, Frugal, inductionHypothesis, Frugal, and_assoc]
      rfl

/-- A search that is remembered stays so until the cache is emptied. -/
theorem mem_remembered {search : Search} (membership : search ∈ held) {deeds : List Deed}
    (uncleared : .cleared ∉ deeds) : search ∈ remembered held deeds := by
  induction deeds generalizing held with
  | nil => exact membership
  | cons deed rest inductionHypothesis =>
      refine inductionHypothesis ?_ (List.not_mem_of_not_mem_cons uncleared)
      cases deed with
      | cleared => exact absurd List.mem_cons_self uncleared
      | searched other =>
          simp only [Deed.remember]
          split
          next => exact List.mem_cons_of_mem other membership
          next => exact membership

theorem Frugal.isNeeded {before between after : List Deed} {first second : Search}
    (frugal : Frugal maxAge held
      (before ++ .searched first :: (between ++ .searched second :: after)))
    (answered : first.outcome.isSome = true) (same : first.request = second.request)
    (uncleared : .cleared ∉ between) :
    first.sentAt.nanos ≤ first.arrivedAt.nanos ∧
      maxAge.nanos < second.sentAt.nanos - first.arrivedAt.nanos := by
  have behind := (frugal_append.mp frugal).2.2
  have needed := (frugal_append.mp behind).2.1 second rfl
  refine needed first (mem_remembered ?_ uncleared) same
  rw [Deed.remember, if_pos answered]
  exact List.mem_cons_self

end Deeds

/-! ## What the cache recalls -/

/-- Each answer since the cache was last emptied has arrived by now, and either its request has an
entry that is no older, or the answer has grown too old. -/
structure Recalls (maxAge : Duration) (held : List Search) (clock : Instant)
    (cache : Cache Request Response) : Prop where
  age : cache.maxAge = maxAge
  past : ∀ search ∈ held, search.sentAt.nanos ≤ search.arrivedAt.nanos ∧
    search.arrivedAt.nanos ≤ clock.nanos
  kept : ∀ search ∈ held, cache.HoldsSince search.request search.arrivedAt ∨
    maxAge.nanos < clock.nanos - search.arrivedAt.nanos

namespace Recalls

variable {maxAge : Duration} {held : List Search} {clock now : Instant}
  {cache : Cache Request Response}

theorem nil (sameAge : cache.maxAge = maxAge) (clock : Instant) : Recalls maxAge [] clock cache :=
  ⟨sameAge, List.forall_mem_nil _, List.forall_mem_nil _⟩

theorem later (recalls : Recalls maxAge held clock cache) (onward : clock.nanos ≤ now.nanos) :
    Recalls maxAge held now cache := by
  refine ⟨recalls.age, ?_, ?_⟩
  · exact fun search membership =>
      (recalls.past search membership).imp_right fun arrived => Int.le_trans arrived onward
  · intro search membership
    refine (recalls.kept search membership).imp_right ?_
    intro tooOld
    omega

theorem afterGet (recalls : Recalls maxAge held now cache) (key : Request) :
    Recalls maxAge held now (cache.afterGet key now) := by
  refine ⟨Cache.maxAge_afterGet.trans recalls.age, recalls.past, ?_⟩
  intro search membership
  -- An entry that the look-up drops was too old, and so are the answers before it.
  rcases recalls.kept search membership with holds | tooOld
  · rw [← recalls.age]
    exact holds.afterGet key now
  · exact .inr tooOld

theorem accept (recalls : Recalls maxAge held now cache) (key : Request)
    (outcome : Option Response) : Recalls maxAge held now (cache.accept key now outcome) := by
  refine ⟨Cache.maxAge_accept.trans recalls.age, recalls.past, ?_⟩
  intro search membership
  refine (recalls.kept search membership).imp_left ?_
  exact fun holds => holds.accept (recalls.past search membership).2 key outcome

theorem acceptIfAbsent (recalls : Recalls maxAge held now cache) (key : Request)
    (outcome : Option Response) :
    Recalls maxAge held now (cache.acceptIfAbsent key now outcome) := by
  refine ⟨Cache.maxAge_acceptIfAbsent.trans recalls.age, recalls.past, ?_⟩
  intro search membership
  exact (recalls.kept search membership).imp_left fun holds => holds.acceptIfAbsent key outcome

theorem searched (recalls : Recalls maxAge held now cache) {search : Search}
    (sent : search.sentAt.nanos ≤ search.arrivedAt.nanos) (arrived : search.arrivedAt = now) :
    Recalls maxAge (Deed.remember held (.searched search)) now
      (cache.accept search.request now search.outcome) := by
  have accepted := recalls.accept search.request search.outcome
  simp only [Deed.remember]
  cases outcome : search.outcome with
  | none =>
      rw [outcome] at accepted
      exact accepted
  | some response =>
      rw [outcome] at accepted
      have past : search.arrivedAt.nanos ≤ now.nanos := arrived ▸ Int.le_refl _
      have stored := cache.holdsSince_put search.request response now
      refine ⟨accepted.age, ?_, ?_⟩
      · exact List.forall_mem_cons.mpr ⟨⟨sent, past⟩, accepted.past⟩
      · exact List.forall_mem_cons.mpr ⟨.inl (arrived ▸ stored), accepted.kept⟩

theorem isNeeded (recalls : Recalls maxAge held now cache) {search : Search}
    (missing : cache.get? search.request now = none) (sent : search.sentAt = now) :
    search.IsNeeded maxAge held := by
  intro first membership same
  refine ⟨(recalls.past first membership).1, ?_⟩
  rw [sent]
  rcases recalls.kept first membership with holds | tooOld
  · rw [same] at holds
    rw [← recalls.age]
    exact holds.lt_of_get?_eq_none missing
  · exact tooOld

end Recalls

/-! ## Deeds of a session -/

/-- An operation that empties the cache does so before it searches. -/
def Action.clearing : Action → List Deed
  | .clearAll => [.cleared]
  | _ => []

namespace Session

variable {session prepared : Session} {visit : Visit} {world : Surroundings} {action : Action}

def loadDeeds (session : Session) (visit : Visit) : List Deed :=
  (session.loadHandovers visit).map fun moment =>
    .searched ⟨moment.currentRequest, visit.wantedAt, visit.engine moment.currentRequest,
      visit.arrivedAt⟩

def refreshDeeds (session : Session) (world : Surroundings) : List Deed :=
  session.loadDeeds world.first ++
    if session.Reloads world then (session.load world.first).clamp.loadDeeds world.second else []

def deeds (session : Session) (world : Surroundings) (action : Action) : List Deed :=
  match session.prepared? world.now action with
  | some prepared => action.clearing ++ prepared.refreshDeeds world
  | none => []

/-- What a session does in a run that its later searches depend on. -/
def journal (session : Session) : List Step → List Deed
  | [] => []
  | step :: rest =>
      session.deeds step.world step.action ++
        (session.after step.world step.action).journal rest

def searches (session : Session) (steps : List Step) : List Search :=
  (session.journal steps).filterMap Deed.search?

/-! ## The cache of a session -/

theorem cache_of_prepared? {now : Instant}
    (preparation : session.prepared? now action = some prepared) :
    (action.clearing = [] ∧ prepared.cache = session.cache) ∨
      (action.clearing = [.cleared] ∧ prepared.cache = session.cache.clear) := by
  cases action with
  | clearAll =>
      obtain rfl := Option.some.inj preparation
      exact .inr ⟨rfl, cache_turnTo _ _⟩
  | submit | applyForm | toggleFacet | clearFacets | restoreFacets =>
      obtain rfl := Option.some.inj preparation
      exact .inl ⟨rfl, cache_turnTo _ _⟩
  | removeFilter position =>
      obtain ⟨filter, _, rfl⟩ := Option.map_eq_some_iff.mp preparation
      exact .inl ⟨rfl, cache_turnTo _ _⟩
  | goTo | next | previous =>
      obtain ⟨paging, _, rfl⟩ := Option.map_eq_some_iff.mp preparation
      exact .inl ⟨rfl, rfl⟩
  | refresh =>
      obtain rfl := Option.some.inj preparation
      exact .inl ⟨rfl, rfl⟩
  | restore | restoreWithForm =>
      obtain rfl := Option.some.inj preparation
      exact .inl ⟨rfl, cache_recompile _⟩
  | observe | edit | begin | complete | bookmark => cases preparation

theorem loadDeeds_of_hit {response : Response}
    (cached : session.cache.get? session.currentRequest visit.wantedAt = some response) :
    session.loadDeeds visit = [] := by
  rw [loadDeeds, loadHandovers, cached]
  rfl

theorem loadDeeds_of_miss
    (missing : session.cache.get? session.currentRequest visit.wantedAt = none) :
    session.loadDeeds visit =
      [.searched ⟨session.currentRequest, visit.wantedAt,
        visit.engine session.currentRequest, visit.arrivedAt⟩] := by
  rw [loadDeeds, loadHandovers, missing]
  rfl

/-! ## Searches are needed -/

section Needed

variable {maxAge : Duration} {held : List Search} {clock : Instant}

theorem isChain_readings :
    (clock.nanos :: world.readings).IsChain (· ≤ ·) ↔
      clock.nanos ≤ world.now.nanos ∧
        world.now.nanos ≤ world.first.wantedAt.nanos ∧
        world.first.wantedAt.nanos ≤ world.first.arrivedAt.nanos ∧
        world.first.arrivedAt.nanos ≤ world.second.wantedAt.nanos ∧
        world.second.wantedAt.nanos ≤ world.second.arrivedAt.nanos := by
  simp [Surroundings.readings]

theorem isChain_readings_cons {step : Step} {rest : List Step} :
    (clock.nanos :: readings (step :: rest)).IsChain (· ≤ ·) ↔
      (clock.nanos :: step.world.readings).IsChain (· ≤ ·) ∧
        (step.world.second.arrivedAt.nanos :: readings rest).IsChain (· ≤ ·) := by
  simp [readings, Surroundings.readings, and_assoc]

theorem frugal_load (session : Session) (recalls : Recalls maxAge held clock session.cache)
    (wanted : clock.nanos ≤ visit.wantedAt.nanos)
    (arrived : visit.wantedAt.nanos ≤ visit.arrivedAt.nanos) :
    Frugal maxAge held (session.loadDeeds visit) ∧
      Recalls maxAge (remembered held (session.loadDeeds visit)) visit.arrivedAt
        (session.load visit).cache := by
  have before := recalls.later wanted
  have looked := (before.afterGet session.currentRequest).later arrived
  cases cached : session.cache.get? session.currentRequest visit.wantedAt with
  | some response =>
      rw [loadDeeds_of_hit cached, cache_load, cacheAfterLoad, cached]
      exact ⟨trivial, looked⟩
  | none =>
      rw [loadDeeds_of_miss cached, cache_load, cacheAfterLoad, cached]
      refine ⟨⟨?_, trivial⟩, looked.searched arrived rfl⟩
      -- Had an answer been young enough, the look-up would have found its entry.
      rintro search ⟨⟩
      exact before.isNeeded cached rfl

theorem frugal_refresh (session : Session) (recalls : Recalls maxAge held clock session.cache)
    (forward : (clock.nanos :: world.readings).IsChain (· ≤ ·)) :
    Frugal maxAge held (session.refreshDeeds world) ∧
      Recalls maxAge (remembered held (session.refreshDeeds world)) world.second.arrivedAt
        (session.refresh world).cache := by
  obtain ⟨begun, wanted, arrived, wantedAgain, arrivedAgain⟩ := isChain_readings.mp forward
  obtain ⟨frugal, loaded⟩ := session.frugal_load recalls (Int.le_trans begun wanted) arrived
  unfold refreshDeeds
  by_cases reloads : session.Reloads world
  · rw [refresh_of_reloads reloads, if_pos reloads, frugal_append, remembered_append]
    have again := (session.load world.first).clamp.frugal_load loaded wantedAgain arrivedAgain
    exact ⟨⟨frugal, again.1⟩, again.2⟩
  · rw [refresh_of_not_reloads reloads, if_neg reloads, List.append_nil]
    exact ⟨frugal, loaded.later (Int.le_trans wantedAgain arrivedAgain)⟩

theorem recalls_complete {now : Instant} (recalls : Recalls maxAge held now session.cache)
    (ticket : Request) (outcome : Option Response) :
    Recalls maxAge held now (session.complete now ticket outcome).cache := by
  cases current : session.isCurrent ticket with
  | true =>
      rw [complete_of_isCurrent current]
      exact recalls.accept ticket outcome
  | false =>
      rw [complete_of_not_isCurrent current]
      exact recalls.acceptIfAbsent ticket outcome

theorem recalls_unloaded {now : Instant} (recalls : Recalls maxAge held now session.cache)
    (action : Action) : Recalls maxAge held now (session.unloaded now action).cache := by
  cases action with
  | complete ticket outcome => exact recalls_complete recalls ticket outcome
  | _ => exact recalls

theorem frugal_after (recalls : Recalls maxAge held clock session.cache)
    (forward : (clock.nanos :: world.readings).IsChain (· ≤ ·)) (action : Action) :
    Frugal maxAge held (session.deeds world action) ∧
      Recalls maxAge (remembered held (session.deeds world action)) world.second.arrivedAt
        (session.after world action).cache := by
  unfold deeds
  cases preparation : session.prepared? world.now action with
  | some prepared =>
      rw [after_eq_refresh preparation]
      rcases cache_of_prepared? preparation with ⟨clearing, same⟩ | ⟨clearing, cleared⟩
      · simp only [clearing, List.nil_append]
        exact prepared.frugal_refresh (same ▸ recalls) forward
      · have age : prepared.cache.maxAge = maxAge := by
          rw [cleared]
          exact recalls.age
        -- Once the cache is empty, no answer is left that could make a search needless.
        have emptied := prepared.frugal_refresh (Recalls.nil age clock) forward
        simp only [clearing, List.singleton_append]
        refine ⟨⟨?_, emptied.1⟩, emptied.2⟩
        rintro search ⟨⟩
  | none =>
      rw [after_eq_unloaded preparation]
      obtain ⟨begun, wanted, arrived, wantedAgain, arrivedAgain⟩ := isChain_readings.mp forward
      refine ⟨trivial, (recalls_unloaded (recalls.later begun) action).later ?_⟩
      omega

theorem frugal_journal {steps : List Step} (recalls : Recalls maxAge held clock session.cache)
    (forward : (clock.nanos :: readings steps).IsChain (· ≤ ·)) :
    Frugal maxAge held (session.journal steps) := by
  induction steps generalizing session held clock with
  | nil => trivial
  | cons step rest inductionHypothesis =>
      obtain ⟨now, onward⟩ := isChain_readings_cons.mp forward
      obtain ⟨frugal, recalled⟩ := frugal_after recalls now step.action
      exact frugal_append.mpr ⟨frugal, inductionHypothesis recalled onward⟩

end Needed

/-! ## Searches are counted -/

theorem requests_loadDeeds (session : Session) (visit : Visit) :
    ((session.loadDeeds visit).filterMap Deed.search?).map (·.request) =
      (session.loadHandovers visit).map currentRequest := by
  unfold loadDeeds loadHandovers
  cases session.cache.get? session.currentRequest visit.wantedAt <;> rfl

theorem requests_deeds (session : Session) (world : Surroundings) (action : Action) :
    ((session.deeds world action).filterMap Deed.search?).map (·.request) =
      (session.handovers world action).map currentRequest := by
  have unsearched : action.clearing.filterMap Deed.search? = [] := by cases action <;> rfl
  unfold deeds handovers
  cases session.prepared? world.now action with
  | none => rfl
  | some prepared =>
      simp only [List.filterMap_append, unsearched, List.nil_append, refreshDeeds,
        refreshHandovers, List.map_append, requests_loadDeeds]
      congr 1
      split
      next => exact requests_loadDeeds _ _
      next => rfl

theorem sent_run (session : Session) (steps : List Step) :
    (session.run steps).sent =
      session.sent ++ (session.searches steps).map (·.request) := by
  induction steps generalizing session with
  | nil => exact (List.append_nil _).symm
  | cons step rest inductionHypothesis =>
      rw [run, inductionHypothesis, sent_after, searches, searches, journal,
        List.filterMap_append, List.map_append, requests_deeds, List.append_assoc]

/-- Each miss of the cache has sent one search. -/
def Tallied (session : Session) : Prop :=
  session.cache.misses = session.sent.length

namespace Tallied

theorem load (tallied : session.Tallied) (visit : Visit) : (session.load visit).Tallied := by
  unfold Tallied at tallied ⊢
  rw [cache_load, sent_load, cacheAfterLoad, sentAfterLoad]
  have looked := session.cache.misses_afterGet session.currentRequest visit.wantedAt
  cases cached : session.cache.get? session.currentRequest visit.wantedAt with
  | some response =>
      rw [cached] at looked
      exact looked.trans tallied
  | none =>
      rw [cached] at looked
      rw [Cache.misses_accept, looked, tallied, List.length_append]
      rfl

theorem refresh (tallied : session.Tallied) (world : Surroundings) :
    (session.refresh world).Tallied :=
  refresh_preserves (fun _ visit _ held => held.load visit) (fun _ held => held) tallied

theorem complete (tallied : session.Tallied) (now : Instant) (ticket : Request)
    (outcome : Option Response) : (session.complete now ticket outcome).Tallied := by
  unfold Tallied at tallied ⊢
  rw [sent_complete, ← tallied]
  cases current : session.isCurrent ticket with
  | true =>
      rw [complete_of_isCurrent current]
      exact session.cache.misses_accept ticket now outcome
  | false =>
      rw [complete_of_not_isCurrent current]
      have counts := session.cache.counts_acceptIfAbsent ticket now outcome
      rw [counts]

theorem after (tallied : session.Tallied) (world : Surroundings) (action : Action) :
    (session.after world action).Tallied := by
  cases preparation : session.prepared? world.now action with
  | some prepared =>
      rw [after_eq_refresh preparation]
      have ready : prepared.Tallied := by
        unfold Tallied at tallied ⊢
        rw [(leaves_of_prepared? preparation).sent, ← tallied]
        rcases cache_of_prepared? preparation with ⟨_, same⟩ | ⟨_, cleared⟩
        · rw [same]
        · rw [cleared]
          rfl
      exact ready.refresh world
  | none =>
      rw [after_eq_unloaded preparation]
      cases action with
      | complete ticket outcome => exact tallied.complete world.now ticket outcome
      | _ => exact tallied

theorem run (tallied : session.Tallied) (steps : List Step) : (session.run steps).Tallied := by
  induction steps generalizing session with
  | nil => exact tallied
  | cons step rest inductionHypothesis =>
      exact inductionHypothesis (tallied.after step.world step.action)

end Tallied

/-- In every run in which the clock does not go back, the searches sent are as many as the misses of
the cache, and the same search is sent again after an answer only when more time than an answer is
kept for has passed since it was there, or when the cache was emptied in between. -/
theorem searched_again (registry : Registry) (settings : Settings) {steps : List Step}
    (forward : (readings steps).IsChain (· ≤ ·)) :
    let session := start registry settings
    (session.run steps).sent = (session.searches steps).map (·.request) ∧
      (session.run steps).cache.misses = (session.run steps).sent.length ∧
      ∀ before first between second after,
        session.journal steps =
          before ++ .searched first :: (between ++ .searched second :: after) →
        first.request = second.request → first.outcome.isSome = true →
          .cleared ∈ between ∨
            first.sentAt.nanos ≤ first.arrivedAt.nanos ∧
              settings.maxAge.nanos < second.sentAt.nanos - first.arrivedAt.nanos := by
  intro session
  have tallied : session.Tallied := rfl
  refine ⟨session.sent_run steps, tallied.run steps, ?_⟩
  intro before first between second after split same answered
  by_cases cleared : .cleared ∈ between
  · exact .inl cleared
  · right
    have frugal : Frugal settings.maxAge [] (session.journal steps) := by
      cases steps with
      | nil => trivial
      | cons step rest =>
          -- The run begins at the first reading of the clock.
          have begun : (step.world.now.nanos :: readings (step :: rest)).IsChain (· ≤ ·) :=
            List.isChain_cons_cons.mpr ⟨Int.le_refl _, forward⟩
          have age : session.cache.maxAge = settings.maxAge := rfl
          exact frugal_journal (Recalls.nil age step.world.now) begun
    rw [split] at frugal
    exact frugal.isNeeded answered same cleared

/-- A run in which everything is searched for three times: at first, five minutes and a nanosecond
later, though its answer has come in from elsewhere in between and has been shown from the cache,
and after the cache was emptied. -/
def repeatedRun : List Step :=
  let early := uniform .epoch (some 25)
  let late := uniform ⟨300000000001, by decide, by decide⟩ (some 25)
  [⟨early, .refresh⟩, ⟨early, .toggleFacet "situacao_s" "Aberto"⟩,
    ⟨uniform ⟨1000000000, by decide, by decide⟩ none,
      .complete ⟨"*:*", 1, 10⟩ (some ⟨[], 7, .empty⟩)⟩,
    ⟨uniform ⟨300000000000, by decide, by decide⟩ none, .clearFacets⟩, ⟨late, .refresh⟩,
    ⟨late, .clearAll⟩]

theorem searched_again_repeatedRun :
    let early : Search := ⟨⟨"*:*", 1, 10⟩, .epoch, some ⟨[], 25, .empty⟩, .epoch⟩
    let other : Search :=
      ⟨⟨"*:* AND ((situacao_s:\"Aberto\"))", 1, 10⟩, .epoch, some ⟨[], 25, .empty⟩, .epoch⟩
    let late : Search :=
      { early with
        sentAt := ⟨300000000001, by decide, by decide⟩
        arrivedAt := ⟨300000000001, by decide, by decide⟩ }
    let session := start .default .default
    (readings repeatedRun).IsChain (· ≤ ·) ∧
      session.journal repeatedRun =
        [.searched early, .searched other, .searched late, .cleared, .searched late] ∧
      (session.run repeatedRun).cache.misses = 4 ∧
      (Deed.cleared ∈ [Deed.searched other] ∨
        early.sentAt.nanos ≤ early.arrivedAt.nanos ∧
          Settings.default.maxAge.nanos < late.sentAt.nanos - early.arrivedAt.nanos) := by
  intro early other late session
  have forward : (readings repeatedRun).IsChain (· ≤ ·) := by decide +kernel
  have journal : session.journal repeatedRun =
      [.searched early, .searched other, .searched late, .cleared, .searched late] := by
    decide +kernel
  obtain ⟨-, -, again⟩ := searched_again .default .default forward
  exact ⟨forward, journal, by decide +kernel,
    again [] early [.searched other] late [.cleared, .searched late] journal rfl rfl⟩

end Session

end FacetedSearch
