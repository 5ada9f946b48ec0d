import FacetedSearch.Proofs.Session.Chronicle

/-!
# Where the answer on the screen comes from

In every run, what is shown has been delivered for the request that is current at that moment, just
now or, when it comes from the cache, no longer ago than the cache allows; or it is the empty answer
in place of a failure, or nothing has been shown yet.  `Account` is the invariant: each entry of the
cache is a delivery that the events record, under its own key and with its own time.

An outcome that is not wanted any more changes at most the cache, and there at most the entry of its
own request, if that has none.
-/

namespace FacetedSearch

open Calendar

/-- An event is justified by the events before it: what is shown was delivered for the request that
is current. -/
def Event.Rightful (maxAge : Duration) (before : List Event) : Event → Prop
  | .shown current response .arrival =>
      ∃ deliveredAt, before.getLast? = some (.delivered current response deliveredAt)
  | .shown current response .failure =>
      response = .empty ∧ before.getLast? = some (.failed current)
  | .shown current response (.cache takenAt) =>
      ∃ deliveredAt, .delivered current response deliveredAt ∈ before ∧
        takenAt.nanos - deliveredAt.nanos ≤ maxAge.nanos
  | _ => True

/-- All events of a list are justified by those before them. -/
def AllRightful (maxAge : Duration) : (before events : List Event) → Prop
  | _, [] => True
  | before, event :: rest =>
      event.Rightful maxAge before ∧ AllRightful maxAge (before ++ [event]) rest

@[simp]
theorem allRightful_append {maxAge : Duration} {before first second : List Event} :
    AllRightful maxAge before (first ++ second) ↔
      AllRightful maxAge before first ∧ AllRightful maxAge (before ++ first) second := by
  induction first generalizing before with
  | nil => simp [AllRightful]
  | cons event rest inductionHypothesis =>
      simp only [List.cons_append, AllRightful, inductionHypothesis, List.append_assoc,
        List.nil_append, and_assoc]

namespace Session

variable {session : Session} {events : List Event} {maxAge : Duration}

/-- The events so far account for what the cache holds and for what is on the screen. -/
structure Account (maxAge : Duration) (events : List Event) (session : Session) : Prop where
  age : session.cache.maxAge = maxAge
  entries : session.cache.Every fun entry =>
    .delivered entry.key entry.value entry.storedAt ∈ events
  screen : session.shown = screenAfter events
  rightful : AllRightful maxAge [] events

namespace Account

theorem start (registry : Registry) (settings : Settings) :
    Account settings.maxAge [] (start registry settings) where
  age := rfl
  entries := fun _ membership => nomatch membership
  screen := rfl
  rightful := trivial

theorem prepared {prepared : Session} (account : Account maxAge events session)
    (leaves : session.Leaves prepared) : Account maxAge events prepared where
  age := leaves.maxAge.trans account.age
  entries := fun entry membership => account.entries entry (leaves.entries membership)
  screen := leaves.shown.trans account.screen
  rightful := account.rightful

/-- The account of the entries goes on when more happens. -/
theorem entries_append (account : Account maxAge events session) (more : List Event) :
    session.cache.Every fun entry =>
      .delivered entry.key entry.value entry.storedAt ∈ events ++ more :=
  account.entries.mono fun _ recorded => List.mem_append_left more recorded

theorem issued (account : Account maxAge events session) (request : Request) :
    Account maxAge (events ++ [.issued request]) session where
  age := account.age
  entries := account.entries_append _
  screen := by
    rw [screenAfter_append]
    exact account.screen
  rightful := allRightful_append.mpr ⟨account.rightful, trivial, trivial⟩

theorem complete (account : Account maxAge events session) (now : Instant) (ticket : Request)
    (outcome : Option Response) :
    Account maxAge (events ++ session.completionEvents now ticket outcome)
      (session.complete now ticket outcome) := by
  have recorded : ∀ (more : List Event) response, outcome = some response →
      .delivered ticket response now ∈ events ++ (.ofOutcome ticket now outcome :: more) := by
    rintro more response rfl
    simp [Event.ofOutcome]
  have arrived : AllRightful maxAge [] (events ++ [.ofOutcome ticket now outcome]) := by
    cases outcome <;> exact allRightful_append.mpr ⟨account.rightful, trivial, trivial⟩
  cases current : session.isCurrent ticket with
  | true =>
      rw [complete_of_isCurrent current, completionEvents_of_isCurrent current]
      refine ⟨?_, ?_, ?_, ?_⟩
      · exact Cache.maxAge_accept.trans account.age
      · exact (account.entries_append _).accept (recorded _)
      · cases outcome <;> simp [screenAfter, Event.ofOutcome, Event.showing, Event.screen, display]
      · rw [List.append_cons]
        refine allRightful_append.mpr ⟨arrived, ?_, trivial⟩
        cases outcome with
        | some response => exact ⟨now, by simp [Event.ofOutcome]⟩
        | none => exact ⟨rfl, by simp [Event.ofOutcome]⟩
  | false =>
      rw [complete_of_not_isCurrent current, completionEvents_of_not_isCurrent current]
      refine ⟨?_, ?_, ?_, ?_⟩
      · exact Cache.maxAge_acceptIfAbsent.trans account.age
      · exact (account.entries_append _).acceptIfAbsent (recorded _)
      · cases outcome <;>
          simpa [screenAfter, Event.ofOutcome, Event.screen] using account.screen
      · exact arrived

theorem load (account : Account maxAge events session) (visit : Visit) :
    Account maxAge (events ++ session.loadEvents visit) (session.load visit) := by
  cases cached : session.cache.get? session.currentRequest visit.wantedAt with
  | some response =>
      rw [loadEvents_of_hit cached]
      have found : session.found visit = response := by simp [Session.found, cached]
      have looked : session.cacheAfterLoad visit =
          session.cache.afterGet session.currentRequest visit.wantedAt := by
        simp [cacheAfterLoad, cached]
      obtain ⟨deliveredAt, membership, young⟩ := Cache.exists_of_get?_eq_some cached
      refine ⟨?_, ?_, ?_, ?_⟩
      · rw [cache_load, maxAge_cacheAfterLoad]
        exact account.age
      · rw [cache_load, looked]
        exact (account.entries_append _).afterGet
      · rw [shown_load, found, screenAfter_append]
        rfl
      · refine allRightful_append.mpr ⟨account.rightful, ?_, trivial⟩
        exact ⟨deliveredAt, account.entries _ membership, account.age ▸ young⟩
  | none =>
      -- the entries that a look-up leaves are a part of those accounted for
      have looked : Account maxAge events { session with
          cache := session.cache.afterGet session.currentRequest visit.wantedAt
          sent := session.sent ++ [session.currentRequest] } :=
        ⟨Cache.maxAge_afterGet.trans account.age, account.entries.afterGet, account.screen,
          account.rightful⟩
      have completed := (looked.issued session.currentRequest).complete visit.arrivedAt
        session.currentRequest (visit.engine session.currentRequest)
      rw [loadEvents_of_miss cached, List.append_cons, load_of_miss cached]
      exact completed

theorem refresh (account : Account maxAge events session) (world : Surroundings) :
    Account maxAge (events ++ session.refreshEvents world) (session.refresh world) :=
  refresh_chronicle (fun _ _ visit held => held.load visit)
    (fun _ _ held => ⟨held.age, held.entries, held.screen, held.rightful⟩) account

theorem unloaded (account : Account maxAge events session) (now : Instant) (action : Action) :
    Account maxAge (events ++ session.unloadedEvents now action)
      (session.unloaded now action) := by
  cases action with
  | complete ticket outcome => exact account.complete now ticket outcome
  | begin => exact account.issued session.currentRequest
  | _ =>
      simp only [unloadedEvents, List.append_nil]
      exact ⟨account.age, account.entries, account.screen, account.rightful⟩

theorem after (account : Account maxAge events session) (world : Surroundings)
    (action : Action) :
    Account maxAge (events ++ session.events world action) (session.after world action) := by
  cases preparation : session.prepared? world.now action with
  | some prepared =>
      rw [after_eq_refresh preparation, events_eq_refreshEvents preparation]
      exact (account.prepared (leaves_of_prepared? preparation)).refresh world
  | none =>
      rw [after_eq_unloaded preparation, events_eq_unloadedEvents preparation]
      exact account.unloaded world.now action

end Account

theorem account_run (registry : Registry) (settings : Settings) (steps : List Step) :
    Account settings.maxAge ((start registry settings).history steps)
      ((start registry settings).run steps) :=
  run_chronicle (fun _ _ world action held => held.after world action) []
    (Account.start registry settings) steps

/-- What an outcome may do to a session that no longer wants it: it adds the entry of its own
request to the cache, if it is an answer and there is none, and changes nothing else. -/
structure Discards (session after : Session) (now : Instant) (ticket : Request)
    (outcome : Option Response) : Prop where
  rest : after = { session with cache := after.cache }
  counts : after.cache = { session.cache with entries := after.cache.entries }
  entry : ∀ key, after.cache.entry? key =
    if key = ticket ∧ session.cache.entry? ticket = none then
      outcome.map fun response => ⟨ticket, response, now⟩
    else session.cache.entry? key

@[simp]
theorem cache_complete_none (session : Session) (now : Instant) (ticket : Request) :
    (session.complete now ticket none).cache = session.cache := by
  cases current : session.isCurrent ticket with
  | true =>
      rw [complete_of_isCurrent current]
      rfl
  | false =>
      rw [complete_of_not_isCurrent current]
      rfl

theorem discards_of_not_isCurrent {ticket : Request} (stale : session.isCurrent ticket = false)
    (now : Instant) (outcome : Option Response) :
    session.Discards (session.complete now ticket outcome) now ticket outcome := by
  rw [complete_of_not_isCurrent stale]
  exact ⟨rfl, Cache.counts_acceptIfAbsent session.cache ticket now outcome,
    fun key => Cache.entry?_acceptIfAbsent session.cache ticket key now outcome⟩

/-- In every run, what is on the screen is what was shown last, everything shown was delivered for
the request current at that moment and, if the cache had it, not longer ago than the cache allows;
every entry of the cache is a delivery; an outcome for another than the current request is refused
and discarded; and a failure never enters the cache. -/
theorem shown_is_rightful (registry : Registry) (settings : Settings) (steps : List Step) :
    let session := (start registry settings).run steps
    let events := (start registry settings).history steps
    session.shown = screenAfter events ∧
      (∀ before event after, events = before ++ event :: after →
        event.Rightful settings.maxAge before) ∧
      (session.cache.Every fun entry =>
        .delivered entry.key entry.value entry.storedAt ∈ events) ∧
      (∀ world ticket outcome, ticket ≠ session.currentRequest →
        (session.perform world (.complete ticket outcome)).1 = .verdict false ∧
          session.Discards (session.after world (.complete ticket outcome)) world.now ticket
            outcome) ∧
      ∀ world ticket, (session.after world (.complete ticket none)).cache = session.cache := by
  intro session events
  have account : Account settings.maxAge events session := account_run registry settings steps
  refine ⟨account.screen, ?_, account.entries, ?_, ?_⟩
  · intro before event after split
    have rightful := account.rightful
    rw [split] at rightful
    exact (allRightful_append.mp rightful).2.1
  · intro world ticket outcome other
    have stale := isCurrent_eq_false_iff.mpr other
    exact ⟨congrArg Answer.verdict stale, discards_of_not_isCurrent stale world.now outcome⟩
  · intro world ticket
    exact cache_complete_none session world.now ticket

end Session

end FacetedSearch
