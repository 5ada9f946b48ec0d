import FacetedSearch.Proofs.Session.Provenance
import FacetedSearch.Proofs.Session.Screen

/-!
# Fetches that are overtaken

Outcomes may come in for fetches in another order than the one they were issued in.  A session
knows a fetch by its request alone, so an outcome is shown exactly when its request is the current
one at that moment, be it for the second time or for two fetches at once, and whatever has been
shown since the fetch was issued.

What the comparison of requests does keep up is that the screen never goes back to another request:
an outcome that is shown takes the place of an answer to the same request, or of a result without
entries.
-/

namespace FacetedSearch

open Calendar

namespace Event

/-- The requests of the fetches issued in a run, in order. -/
def requests (events : List Event) : List Request :=
  events.filterMap Event.issued?

@[simp]
theorem requests_append (first second : List Event) :
    requests (first ++ second) = requests first ++ requests second :=
  List.filterMap_append

theorem requests_append_of_some {events : List Event} {number : Nat} {request : Request}
    (issued : (requests events)[number]? = some request) (more : List Event) :
    (requests (events ++ more))[number]? = some request := by
  have within := (List.getElem?_eq_some_iff.mp issued).1
  rw [requests_append]
  exact (List.getElem?_append_left within).trans issued

theorem issued_mem_of_requests {events : List Event} {number : Nat} {request : Request}
    (issued : (requests events)[number]? = some request) : .issued request ∈ events := by
  obtain ⟨event, membership, issued⟩ := List.mem_filterMap.mp (List.mem_of_getElem? issued)
  cases event with
  | issued other =>
      obtain rfl := Option.some.inj issued
      exact membership
  | _ => cases issued

theorem exists_showing (current : Request) (outcome : Option Response) :
    ∃ response origin, showing current outcome = .shown current response origin := by
  cases outcome with
  | some response => exact ⟨response, .arrival, rfl⟩
  | none => exact ⟨.empty, .failure, rfl⟩

/-- The fetch with this number was issued, and an answer to its request was shown. -/
def Settled (events : List Event) (number : Nat) : Prop :=
  ∃ request response origin,
    (requests events)[number]? = some request ∧ .shown request response origin ∈ events

/-- What was settled stays so when more happens. -/
theorem Settled.append {events : List Event} {number : Nat} (settled : Settled events number)
    (more : List Event) : Settled (events ++ more) number := by
  obtain ⟨request, response, origin, issued, shown⟩ := settled
  exact ⟨request, response, origin, requests_append_of_some issued more,
    List.mem_append_left more shown⟩

/-- A fetch that is settled by itself is settled after what came before. -/
theorem Settled.after {events : List Event} {number : Nat} (settled : Settled events number)
    (before : List Event) : Settled (before ++ events) ((requests before).length + number) := by
  obtain ⟨request, response, origin, issued, shown⟩ := settled
  refine ⟨request, response, origin, ?_, List.mem_append_right before shown⟩
  rw [requests_append, List.getElem?_append_right (Nat.le_add_right _ _), Nat.add_sub_cancel_left]
  exact issued

end Event

/-- A session with the events so far and the numbers of the fetches whose outcome has been shown.
Fetches are numbered in the order in which they are issued, within a load or by `begin`. -/
structure Desk where
  session : Session
  events : List Event
  rendered : List Nat

/-- What can happen at a desk: an action, or the outcome of a numbered fetch comes in. -/
inductive Move where
  | act (world : Surroundings) (action : Action)
  | complete (world : Surroundings) (number : Nat) (outcome : Option Response)

namespace Desk

/-- The requests of the fetches issued so far, in order. -/
def issued (desk : Desk) : List Request :=
  Event.requests desk.events

/-- The desk after an action.  The outcomes of the fetches that the action itself issues, except by
`begin`, are shown by the action. -/
def act (desk : Desk) (world : Surroundings) (action : Action) : Desk :=
  let events := desk.session.events world action
  let fetches := (Event.requests events).length
  { session := desk.session.after world action
    events := desk.events ++ events
    rendered :=
      if (desk.session.prepared? world.now action).isSome then
        desk.rendered ++ List.range' desk.issued.length fetches
      else desk.rendered }

/-- The desk after the outcome of a fetch has come in; there is nothing to do for a fetch that was
never issued. -/
def complete (desk : Desk) (world : Surroundings) (number : Nat) (outcome : Option Response) :
    Desk :=
  match desk.issued[number]? with
  | some ticket =>
      { session := desk.session.after world (.complete ticket outcome)
        events := desk.events ++ desk.session.events world (.complete ticket outcome)
        rendered :=
          if desk.session.isCurrent ticket then desk.rendered ++ [number] else desk.rendered }
  | none => desk

def move (desk : Desk) : Move → Desk
  | .act world action => desk.act world action
  | .complete world number outcome => desk.complete world number outcome

def run (desk : Desk) : List Move → Desk
  | [] => desk
  | move :: rest => (desk.move move).run rest

/-- A desk at which nothing has happened. -/
def opened (registry : Registry) (settings : Settings) : Desk :=
  ⟨.start registry settings, [], []⟩

end Desk

namespace Session

variable {session : Session} {world : Surroundings}

theorem exists_shown_completionEvents {ticket : Request}
    (current : session.isCurrent ticket = true) (now : Instant) (outcome : Option Response) :
    ∃ response origin,
      .shown ticket response origin ∈ session.completionEvents now ticket outcome := by
  obtain ⟨response, origin, showing⟩ := Event.exists_showing ticket outcome
  refine ⟨response, origin, ?_⟩
  rw [completionEvents_of_isCurrent current, showing]
  exact List.mem_cons_of_mem _ List.mem_cons_self

theorem issued_notMem_completionEvents {ticket request : Request} {now : Instant}
    {outcome : Option Response} :
    .issued request ∉ session.completionEvents now ticket outcome := by
  cases current : session.isCurrent ticket <;> cases outcome <;>
    simp [completionEvents, current, Event.ofOutcome, Event.showing]

/-- A fetch that is issued in a load is shown by it. -/
theorem shown_of_issued_loadEvents {visit : Visit} {request : Request}
    (membership : .issued request ∈ session.loadEvents visit) :
    ∃ response origin, .shown request response origin ∈ session.loadEvents visit := by
  cases cached : session.cache.get? session.currentRequest visit.wantedAt with
  | some response =>
      rw [loadEvents_of_hit cached] at membership
      cases List.mem_singleton.mp membership
  | none =>
      rw [loadEvents_of_miss cached] at membership ⊢
      rcases List.mem_cons.mp membership with issued | later
      · obtain rfl := Event.issued.inj issued
        obtain ⟨response, origin, shown⟩ := exists_shown_completionEvents
          session.isCurrent_currentRequest visit.arrivedAt (visit.engine session.currentRequest)
        exact ⟨response, origin, List.mem_cons_of_mem _ shown⟩
      · exact absurd later issued_notMem_completionEvents

theorem shown_of_issued_refreshEvents {request : Request}
    (membership : .issued request ∈ session.refreshEvents world) :
    ∃ response origin, .shown request response origin ∈ session.refreshEvents world := by
  unfold refreshEvents at membership ⊢
  rcases List.mem_append.mp membership with first | second
  · obtain ⟨response, origin, shown⟩ := shown_of_issued_loadEvents first
    exact ⟨response, origin, List.mem_append_left _ shown⟩
  · by_cases reloads : session.Reloads world
    · rw [if_pos reloads] at second ⊢
      obtain ⟨response, origin, shown⟩ := shown_of_issued_loadEvents second
      exact ⟨response, origin, List.mem_append_right _ shown⟩
    · simp [reloads] at second

/-- A fetch that an action issues, unless it only begins one, is settled by it. -/
theorem settled_of_prepared? {prepared : Session} {action : Action} {number : Nat}
    (preparation : session.prepared? world.now action = some prepared)
    (within : number < (Event.requests (session.events world action)).length) :
    Event.Settled (session.events world action) number := by
  rw [events_eq_refreshEvents preparation] at within ⊢
  have issued := List.getElem?_eq_getElem within
  obtain ⟨response, origin, shown⟩ :=
    shown_of_issued_refreshEvents (Event.issued_mem_of_requests issued)
  exact ⟨_, response, origin, issued, shown⟩

end Session

namespace Desk

open Session

/-- The events so far agree with the screen and with the numbers of the fetches that were shown. -/
structure Kept (settings : Settings) (desk : Desk) : Prop where
  account : Account settings.maxAge desk.events desk.session
  faces : Faces desk.events desk.session
  rendered : ∀ number ∈ desk.rendered, Event.Settled desk.events number

variable {settings : Settings} {desk : Desk}

theorem complete_of_issued {number : Nat} {ticket : Request}
    (issued : desk.issued[number]? = some ticket) (world : Surroundings)
    (outcome : Option Response) :
    desk.complete world number outcome =
      { session := desk.session.after world (.complete ticket outcome)
        events := desk.events ++ desk.session.events world (.complete ticket outcome)
        rendered :=
          if desk.session.isCurrent ticket then desk.rendered ++ [number] else desk.rendered } := by
  rw [complete, issued]

theorem kept_opened (registry : Registry) (settings : Settings) :
    (opened registry settings).Kept settings where
  account := Account.start registry settings
  faces := .inl rfl
  rendered := fun _ membership => nomatch membership

theorem Kept.act (kept : desk.Kept settings) (world : Surroundings) (action : Action) :
    (desk.act world action).Kept settings := by
  refine ⟨kept.account.after world action, kept.faces.after world action, ?_⟩
  intro number membership
  cases preparation : desk.session.prepared? world.now action with
  | none =>
      simp only [Desk.act, preparation, Option.isSome_none, Bool.false_eq_true, if_false]
        at membership
      exact (kept.rendered number membership).append _
  | some prepared =>
      simp only [Desk.act, preparation, Option.isSome_some, if_true] at membership
      rcases List.mem_append.mp membership with old | new
      · exact (kept.rendered number old).append _
      · obtain ⟨offset, within, rfl⟩ := List.mem_range'.mp new
        rw [Nat.one_mul]
        exact (settled_of_prepared? preparation within).after _

theorem Kept.complete (kept : desk.Kept settings) (world : Surroundings) (number : Nat)
    (outcome : Option Response) : (desk.complete world number outcome).Kept settings := by
  cases ticketed : desk.issued[number]? with
  | none =>
      rw [Desk.complete, ticketed]
      exact kept
  | some ticket =>
      rw [complete_of_issued ticketed]
      refine ⟨kept.account.after world (.complete ticket outcome),
        kept.faces.after world (.complete ticket outcome), ?_⟩
      intro other membership
      cases current : desk.session.isCurrent ticket with
      | false =>
          rw [current] at membership
          exact (kept.rendered other membership).append _
      | true =>
          rw [current] at membership
          rcases List.mem_append.mp membership with old | new
          · exact (kept.rendered other old).append _
          · obtain rfl := List.mem_singleton.mp new
            obtain ⟨response, origin, shown⟩ :=
              exists_shown_completionEvents current world.now outcome
            exact ⟨ticket, response, origin, Event.requests_append_of_some ticketed _,
              List.mem_append_right _ shown⟩

theorem Kept.run (kept : desk.Kept settings) (moves : List Move) :
    (desk.run moves).Kept settings := by
  induction moves generalizing desk with
  | nil => exact kept
  | cons move rest inductionHypothesis =>
      cases move with
      | act world action => exact inductionHypothesis (kept.act world action)
      | complete world number outcome =>
          exact inductionHypothesis (kept.complete world number outcome)

/-- In every run, when the outcome of a fetch comes in, and that of another one has been shown, the
outcome is shown exactly when its request is the current one.  It then takes the place of a result
without entries or of an answer to its own request, which was shown after that of another request;
and otherwise the screen stays as it is. -/
theorem overtaken_replaces_own {registry : Registry} {settings : Settings} {moves : List Move}
    {desk : Desk} (reached : (opened registry settings).run moves = desk)
    {number later : Nat} {ticket latest : Request}
    (issued : desk.issued[number]? = some ticket) (issuedLater : desk.issued[later]? = some latest)
    (shownLater : later ∈ desk.rendered) (world : Surroundings) (outcome : Option Response) :
    let next := desk.complete world number outcome
    ((desk.session.perform world (.complete ticket outcome)).1 = .verdict true ↔
      ticket = desk.session.currentRequest) ∧
    (ticket = desk.session.currentRequest →
      next.rendered = desk.rendered ++ [number] ∧
      next.session.shown = outcome.getD .empty ∧
      (desk.session.shown.total = 0 ∨
        ∃ before, Event.StandsSince desk.events before ticket desk.session.shown ∧
          (latest ≠ ticket → ∃ answer origin, .shown latest answer origin ∈ before))) ∧
    (ticket ≠ desk.session.currentRequest →
      next.rendered = desk.rendered ∧
      next.session.shown = desk.session.shown ∧
      next.session.paging = desk.session.paging) := by
  have kept : desk.Kept settings := reached ▸ (kept_opened registry settings).run moves
  intro next
  have completed : next = _ := complete_of_issued issued world outcome
  refine ⟨?_, ?_, ?_⟩
  · rw [← isCurrent_eq_true_iff]
    exact ⟨Answer.verdict.inj, congrArg Answer.verdict⟩
  · intro current
    have isCurrent := isCurrent_eq_true_iff.mpr current
    rw [completed, after_complete, complete_of_isCurrent isCurrent]
    refine ⟨if_pos isCurrent, rfl, ?_⟩
    rcases kept.faces with empty | subject
    · exact .inl empty
    · right
      obtain ⟨before, stands⟩ := Event.exists_standsSince (current ▸ subject)
      rw [← kept.account.screen] at stands
      refine ⟨before, stands, ?_⟩
      intro different
      obtain ⟨request, answer, origin, issuedAgain, shown⟩ := kept.rendered later shownLater
      obtain rfl := Option.some.inj (issuedLater.symm.trans issuedAgain)
      exact ⟨answer, origin, stands.shown_before shown different⟩
  · intro other
    have stale := isCurrent_eq_false_iff.mpr other
    rw [completed, after_complete, complete_of_not_isCurrent stale, stale]
    exact ⟨rfl, rfl, rfl⟩

/-- A desk where the first page has been begun three times; the second of these fetches came in,
then the first; another query was searched for; and the first query is there again. -/
def detour : Desk :=
  let world := Surroundings.still .epoch fun _ => some ⟨[], 7, .empty⟩
  (opened .default .default).run
    [.act world .begin, .act world .begin, .act world .begin,
      .complete world 1 (some ⟨[], 7, .empty⟩), .complete world 0 (some ⟨[], 7, .empty⟩),
      .act world (.toggleFacet "situacao_s" "Aberto"),
      .act world (.toggleFacet "situacao_s" "Aberto")]

theorem overtaken_replaces_own_detour :
    detour.issued[2]? = some ⟨"*:*", 1, 10⟩ ∧
      detour.issued[3]? = some ⟨"*:* AND ((situacao_s:\"Aberto\"))", 1, 10⟩ ∧
      3 ∈ detour.rendered ∧ detour.session.shown.total ≠ 0 ∧
      ∃ before, Event.StandsSince detour.events before ⟨"*:*", 1, 10⟩ detour.session.shown ∧
        ∃ answer origin,
          .shown ⟨"*:* AND ((situacao_s:\"Aberto\"))", 1, 10⟩ answer origin ∈ before := by
  have issued : detour.issued[2]? = some ⟨"*:*", 1, 10⟩ := by decide +kernel
  have issuedLater :
      detour.issued[3]? = some ⟨"*:* AND ((situacao_s:\"Aberto\"))", 1, 10⟩ := by decide +kernel
  have shownLater : 3 ∈ detour.rendered := by decide +kernel
  have current : ⟨"*:*", 1, 10⟩ = detour.session.currentRequest := by decide +kernel
  have full : detour.session.shown.total ≠ 0 := by decide +kernel
  have replaced := overtaken_replaces_own rfl issued issuedLater shownLater
    (.still .epoch fun _ => none) (some ⟨[], 9, .empty⟩)
  obtain ⟨before, stands, earlier⟩ := (replaced.2.1 current).2.2.resolve_left full
  exact ⟨issued, issuedLater, shownLater, full, before, stands, earlier (by decide +kernel)⟩

/-- The outcomes of two fetches for one request are shown in the other order, and so are those of
two fetches for different requests, when the first of these has become the current one again. -/
theorem rendered_unordered :
    (detour.complete (.still .epoch fun _ => none) 2 (some ⟨[], 9, .empty⟩)).rendered =
        [1, 0, 3, 2] ∧
      ¬(detour.complete (.still .epoch fun _ => none) 2 (some ⟨[], 9, .empty⟩)).rendered.Pairwise
        (· ≤ ·) := by
  decide +kernel

end Desk

end FacetedSearch
