import FacetedSearch.Proofs.Selection
import FacetedSearch.Proofs.Session.Handover
import FacetedSearch.Proofs.Session.PageRange
import FacetedSearch.Proofs.Text.Blank

/-!
# What holds of a session at every moment

`Coherent` ties the parts of a session together: the expression is that of the query, the total is
that of the answer on the screen, and the page is one of the session's size.  Every action keeps
this, whatever outcomes are brought to the session.

`Sound` adds that the keys of the cache are such pages as well.  They are requests that were current
at some time, as long as outcomes come in only for tickets that the session has given out;
`Ticketed` says so of a run.  A session is sound also in the middle of an action, when a request is
handed to the engine.
-/

namespace FacetedSearch

open Calendar

/-- A page that is numbered from one, of a given size. -/
structure Request.OfSize (size : UInt64) (request : Request) : Prop where
  page : 1 ≤ request.page
  size : request.size = size

/-- A query without blanks around its free text and with a well-formed facet selection. -/
structure Query.Tidy (query : Query) : Prop where
  freeText : Text.trimmed query.freeText = query.freeText
  facets : query.facets.WellFormed

/-- The ticket whose outcome an action brings. -/
def Action.ticket? : Action → Option Request
  | .complete ticket _ => some ticket
  | _ => none

/-- The ticket that an answer gives out. -/
def Answer.ticket? : Answer → Option Request
  | .ticket request => some request
  | _ => none

namespace Session

variable {settings : Settings} {session : Session} {visit : Visit} {world : Surroundings}

/-- The parts of a session fit together. -/
structure Coherent (settings : Settings) (session : Session) : Prop where
  compiled : session.expression = session.query.compile
  query : session.query.Tidy
  total : session.paging.total = session.shown.total
  page : 1 ≤ session.paging.page
  size : session.paging.size = max settings.pageSize 1

/-- The parts of a session fit together, and the cache has pages of its size only. -/
structure Sound (settings : Settings) (session : Session) : Prop
    extends Coherent settings session where
  keys : session.cache.Every fun entry => entry.key.OfSize session.paging.size

/-- Outcomes come in only for tickets that are held at the start or given out on the way. -/
def Ticketed (held : List Request) (session : Session) : List Step → Prop
  | [] => True
  | step :: rest =>
      (∀ ticket ∈ step.action.ticket?.toList, ticket ∈ held) ∧
        (session.after step.world step.action).Ticketed
          (held ++ (session.perform step.world step.action).1.ticket?.toList) rest

instance decidableTicketed (held : List Request) (session : Session) :
    (steps : List Step) → Decidable (session.Ticketed held steps)
  | [] => inferInstanceAs (Decidable True)
  | step :: rest =>
      have := decidableTicketed (held ++ (session.perform step.world step.action).1.ticket?.toList)
        (session.after step.world step.action) rest
      inferInstanceAs (Decidable (_ ∧ _))

/-! ## Preparations -/

theorem compiled_recompile (session : Session) :
    session.recompile.expression = session.recompile.query.compile := by
  rw [recompile_eq]

@[simp]
theorem query_recompile (session : Session) : session.recompile.query = session.query := by
  rw [recompile_eq]

theorem tidy_turnTo {query : Query} (tidy : query.Tidy) (session : Session) :
    (session.turnTo query).query.Tidy := by
  unfold turnTo
  rw [query_recompile]
  exact tidy

theorem tidy_openBookmark (session : Session) (bookmark : Bookmark) :
    (session.openBookmark bookmark).recompile.query.Tidy := by
  rw [query_recompile]
  exact ⟨Text.trimmed_trimmed bookmark.freeText, Selection.wellFormed_ofTable bookmark.facets⟩

theorem tidy_of_prepared? {prepared : Session} {now : Instant} {action : Action}
    (tidy : session.query.Tidy) (preparation : session.prepared? now action = some prepared) :
    prepared.query.Tidy := by
  cases action with
  | submit text =>
      obtain rfl := Option.some.inj preparation
      apply tidy_turnTo
      exact ⟨Text.trimmed_trimmed text, tidy.facets⟩
  | applyForm =>
      obtain rfl := Option.some.inj preparation
      apply tidy_turnTo
      exact ⟨tidy.freeText, tidy.facets⟩
  | removeFilter position =>
      obtain ⟨filter, _, rfl⟩ := Option.map_eq_some_iff.mp preparation
      apply tidy_turnTo
      exact ⟨tidy.freeText, tidy.facets⟩
  | clearAll =>
      obtain rfl := Option.some.inj preparation
      apply tidy_turnTo
      exact ⟨tidy.freeText, Selection.wellFormed_empty⟩
  | toggleFacet field value =>
      obtain rfl := Option.some.inj preparation
      apply tidy_turnTo
      exact ⟨tidy.freeText, tidy.facets.toggle field value⟩
  | clearFacets =>
      obtain rfl := Option.some.inj preparation
      apply tidy_turnTo
      exact ⟨tidy.freeText, Selection.wellFormed_empty⟩
  | restoreFacets facets =>
      obtain rfl := Option.some.inj preparation
      apply tidy_turnTo
      exact ⟨tidy.freeText, Selection.wellFormed_ofTable facets⟩
  | goTo | next | previous =>
      obtain ⟨paging, _, rfl⟩ := Option.map_eq_some_iff.mp preparation
      exact tidy
  | refresh =>
      obtain rfl := Option.some.inj preparation
      exact tidy
  | restore bookmark =>
      obtain rfl := Option.some.inj preparation
      exact tidy_openBookmark session bookmark
  | restoreWithForm bookmark =>
      obtain rfl := Option.some.inj preparation
      exact tidy_openBookmark _ bookmark
  | observe | edit | begin | complete | bookmark => cases preparation

theorem compiled_of_prepared? {prepared : Session} {now : Instant} {action : Action}
    (compiled : session.expression = session.query.compile)
    (preparation : session.prepared? now action = some prepared) :
    prepared.expression = prepared.query.compile := by
  cases action with
  | submit | applyForm | clearAll | toggleFacet | clearFacets | restoreFacets | restore
  | restoreWithForm =>
      obtain rfl := Option.some.inj preparation
      exact compiled_recompile _
  | removeFilter position =>
      obtain ⟨filter, _, rfl⟩ := Option.map_eq_some_iff.mp preparation
      exact compiled_recompile _
  | goTo | next | previous =>
      obtain ⟨paging, _, rfl⟩ := Option.map_eq_some_iff.mp preparation
      exact compiled
  | refresh =>
      obtain rfl := Option.some.inj preparation
      exact compiled
  | observe | edit | begin | complete | bookmark => cases preparation

/-! ## Coherence -/

@[simp]
theorem size_clamp (session : Session) : session.clamp.paging.size = session.paging.size := by
  unfold clamp Paging.clamp
  split <;> rfl

@[simp]
theorem total_clamp (session : Session) : session.clamp.paging.total = session.paging.total := by
  unfold clamp Paging.clamp
  split <;> rfl

namespace Coherent

theorem start (registry : Registry) (settings : Settings) :
    (Session.start registry settings).Coherent settings where
  compiled := rfl
  query := ⟨rfl, Selection.wellFormed_empty⟩
  total := rfl
  page := UInt64.le_refl 1
  size := rfl

theorem currentRequest (coherent : session.Coherent settings) :
    session.currentRequest.OfSize session.paging.size :=
  ⟨coherent.page, rfl⟩

theorem prepared {prepared : Session} {now : Instant} {action : Action}
    (coherent : session.Coherent settings)
    (preparation : session.prepared? now action = some prepared) :
    prepared.Coherent settings := by
  have leaves := leaves_of_prepared? preparation
  refine ⟨compiled_of_prepared? coherent.compiled preparation,
    tidy_of_prepared? coherent.query preparation, ?_, leaves.page coherent.page, ?_⟩
  · rw [leaves.total, leaves.shown]
    exact coherent.total
  · rw [leaves.size]
    exact coherent.size

theorem load (coherent : session.Coherent settings) (visit : Visit) :
    (session.load visit).Coherent settings := by
  rw [load_eq]
  exact { coherent with total := rfl }

theorem clamp (coherent : session.Coherent settings) : session.clamp.Coherent settings where
  compiled := coherent.compiled
  query := coherent.query
  total := session.total_clamp.trans coherent.total
  page := one_le_page_clamp coherent.page
  size := session.size_clamp.trans coherent.size

theorem refresh (coherent : session.Coherent settings) (world : Surroundings) :
    (session.refresh world).Coherent settings :=
  refresh_preserves (fun _ visit _ held => held.load visit) (fun _ held => held.clamp) coherent

theorem complete (coherent : session.Coherent settings) (now : Instant) (ticket : Request)
    (outcome : Option Response) : (session.complete now ticket outcome).Coherent settings := by
  cases current : session.isCurrent ticket with
  | true =>
      rw [complete_of_isCurrent current]
      exact { coherent with total := rfl }
  | false =>
      rw [complete_of_not_isCurrent current]
      exact { coherent with }

theorem after (coherent : session.Coherent settings) (world : Surroundings) (action : Action) :
    (session.after world action).Coherent settings := by
  cases preparation : session.prepared? world.now action with
  | some prepared =>
      rw [after_eq_refresh preparation]
      exact (coherent.prepared preparation).refresh world
  | none =>
      rw [after_eq_unloaded preparation]
      cases action with
      | complete ticket outcome => exact coherent.complete world.now ticket outcome
      | _ => exact { coherent with }

theorem run (coherent : session.Coherent settings) (steps : List Step) :
    (session.run steps).Coherent settings := by
  induction steps generalizing session with
  | nil => exact coherent
  | cons step rest inductionHypothesis =>
      exact inductionHypothesis (coherent.after step.world step.action)

end Coherent

/-! ## The keys of the cache -/

namespace Sound

theorem prepared {prepared : Session} {now : Instant} {action : Action}
    (sound : session.Sound settings) (preparation : session.prepared? now action = some prepared) :
    prepared.Sound settings := by
  have leaves := leaves_of_prepared? preparation
  refine ⟨sound.toCoherent.prepared preparation, ?_⟩
  rw [leaves.size]
  exact fun entry membership => sound.keys entry (leaves.entries membership)

theorem handover (sound : session.Sound settings) (visit : Visit) :
    (session.handover visit).Sound settings :=
  { sound with keys := sound.keys.afterGet }

theorem load (sound : session.Sound settings) (visit : Visit) :
    (session.load visit).Sound settings := by
  refine ⟨sound.toCoherent.load visit, ?_⟩
  rw [cache_load, paging_load]
  exact every_cacheAfterLoad sound.keys fun _ _ => sound.currentRequest

theorem clamp (sound : session.Sound settings) : session.clamp.Sound settings := by
  refine ⟨sound.toCoherent.clamp, ?_⟩
  rw [size_clamp]
  exact sound.keys

theorem refresh (sound : session.Sound settings) (world : Surroundings) :
    (session.refresh world).Sound settings :=
  refresh_preserves (fun _ visit _ held => held.load visit) (fun _ held => held.clamp) sound

theorem complete {ticket : Request} (sound : session.Sound settings)
    (ofSize : ticket.OfSize session.paging.size) (now : Instant) (outcome : Option Response) :
    (session.complete now ticket outcome).Sound settings := by
  refine ⟨sound.toCoherent.complete now ticket outcome, ?_⟩
  cases current : session.isCurrent ticket with
  | true =>
      rw [complete_of_isCurrent current]
      exact sound.keys.accept fun _ _ => ofSize
  | false =>
      rw [complete_of_not_isCurrent current]
      exact sound.keys.acceptIfAbsent fun _ _ => ofSize

theorem after (sound : session.Sound settings) (world : Surroundings) (action : Action)
    (ofSize : ∀ ticket ∈ action.ticket?.toList, ticket.OfSize session.paging.size) :
    (session.after world action).Sound settings := by
  cases preparation : session.prepared? world.now action with
  | some prepared =>
      rw [after_eq_refresh preparation]
      exact (sound.prepared preparation).refresh world
  | none =>
      rw [after_eq_unloaded preparation]
      cases action with
      | complete ticket outcome =>
          exact sound.complete (ofSize ticket List.mem_cons_self) world.now outcome
      | _ => exact { sound with }

/-- A ticket that is given out is the current request. -/
theorem ofSize_of_given (sound : session.Sound settings) {action : Action} {ticket : Request}
    (given : ticket ∈ (session.perform world action).1.ticket?.toList) :
    ticket.OfSize session.paging.size := by
  rw [perform_eq] at given
  cases action with
  | begin =>
      obtain rfl := List.mem_singleton.mp given
      exact sound.currentRequest
  | edit change => cases change <;> cases given
  | _ => cases given

theorem run {held : List Request} {steps : List Step} (sound : session.Sound settings)
    (ofSize : ∀ ticket ∈ held, ticket.OfSize session.paging.size)
    (ticketed : session.Ticketed held steps) : (session.run steps).Sound settings := by
  induction steps generalizing session held with
  | nil => exact sound
  | cons step rest inductionHypothesis =>
      have next := sound.after step.world step.action fun ticket membership =>
        ofSize ticket (ticketed.1 ticket membership)
      -- Pages keep their size, so a ticket that was given out earlier fits the session for good.
      have sameSize : (session.after step.world step.action).paging.size = session.paging.size :=
        next.size.trans sound.size.symm
      refine inductionHypothesis next ?_ ticketed.2
      intro ticket membership
      rw [sameSize]
      rcases List.mem_append.mp membership with earlier | given
      · exact ofSize ticket earlier
      · exact sound.ofSize_of_given given

theorem of_mem_loadHandovers {moment : Session} (sound : session.Sound settings)
    (membership : moment ∈ session.loadHandovers visit) :
    moment.Sound settings ∧ moment.sent.getLast? = some moment.currentRequest := by
  unfold loadHandovers at membership
  split at membership
  next => cases membership
  next =>
    obtain rfl := List.mem_singleton.mp membership
    exact ⟨sound.handover visit, List.getLast?_concat⟩

theorem of_mem_handovers {moment : Session} {action : Action} (sound : session.Sound settings)
    (membership : moment ∈ session.handovers world action) :
    moment.Sound settings ∧ moment.sent.getLast? = some moment.currentRequest := by
  unfold handovers at membership
  cases preparation : session.prepared? world.now action with
  | none => simp [preparation] at membership
  | some prepared =>
      simp only [preparation] at membership
      have ready := sound.prepared preparation
      rcases List.mem_append.mp membership with first | second
      · exact ready.of_mem_loadHandovers first
      · by_cases reloads : prepared.Reloads world
        · rw [if_pos reloads] at second
          exact (ready.load world.first).clamp.of_mem_loadHandovers second
        · simp [reloads] at second

end Sound

/-- A new session is sound after every run in which outcomes come in only for tickets that were
given out, and whatever is done next, it is so at each moment when a request is handed to the
engine; that request is the current one at this moment. -/
theorem sound_throughout (registry : Registry) (settings : Settings) (steps : List Step)
    (ticketed : (start registry settings).Ticketed [] steps) :
    let session := (start registry settings).run steps
    session.Sound settings ∧
      ∀ world action,
        (session.after world action).sent =
          session.sent ++ (session.handovers world action).map currentRequest ∧
        ∀ moment ∈ session.handovers world action,
          moment.Sound settings ∧ moment.sent.getLast? = some moment.currentRequest := by
  intro session
  have sound : session.Sound settings :=
    Sound.run ⟨.start registry settings, List.forall_mem_nil _⟩ (List.forall_mem_nil _) ticketed
  refine ⟨sound, ?_⟩
  intro world action
  exact ⟨session.sent_after world action, fun moment membership =>
    sound.of_mem_handovers membership⟩

/-- A run in which the outcome for the first query comes in when another one is on the screen. -/
def overtakenRun : List Step :=
  let world := uniform .epoch (some 25)
  [⟨world, .begin⟩, ⟨world, .toggleFacet "situacao_s" "Aberto"⟩,
    ⟨world, .complete ⟨"*:*", 1, 10⟩ (some ⟨[], 40, .empty⟩)⟩]

/-- The next action goes to page nine, and is pulled back to the third. -/
theorem sound_throughout_overtakenRun :
    let session := (start .default .default).run overtakenRun
    let handovers := session.handovers (uniform .epoch (some 25))
      (.restore ⟨" multa ", .empty, 9⟩)
    (start .default .default).Ticketed [] overtakenRun ∧
      session.cache.keys =
        [⟨"*:*", 1, 10⟩, ⟨"*:* AND ((situacao_s:\"Aberto\"))", 1, 10⟩] ∧
      session.Sound .default ∧
      handovers.map currentRequest = [⟨"multa", 9, 10⟩, ⟨"multa", 3, 10⟩] ∧
      ∀ moment ∈ handovers, moment.Sound .default := by
  intro session handovers
  have ticketed : (start .default .default).Ticketed [] overtakenRun := by decide +kernel
  have throughout := sound_throughout .default .default overtakenRun ticketed
  have within := throughout.2 (uniform .epoch (some 25)) (.restore ⟨" multa ", .empty, 9⟩)
  exact ⟨ticketed, by decide +kernel, throughout.1, by decide +kernel,
    fun moment membership => (within.2 moment membership).1⟩

end Session

end FacetedSearch
