import FacetedSearch.Proofs.Session.Loading

/-!
What happens during a run, as a list of events.

The events of an operation follow the steps it takes: a load either shows what the cache has, or
issues a fetch and takes its outcome; an outcome arrives, and is shown if its request is the current
one at that moment.
-/

namespace FacetedSearch

open Calendar

/-- How an answer came to be shown. -/
inductive Origin where
  | cache (takenAt : Instant)
  | arrival
  | failure
deriving DecidableEq

/-- Something that happens to a session.  What is shown is noted with the request that is current
at that moment. -/
inductive Event where
  | issued (request : Request)
  | delivered (request : Request) (response : Response) (deliveredAt : Instant)
  | failed (request : Request)
  | shown (current : Request) (response : Response) (origin : Origin)
deriving DecidableEq

namespace Event

/-- The arrival of an outcome. -/
def ofOutcome (request : Request) (now : Instant) : Option Response → Event
  | some response => .delivered request response now
  | none => .failed request

/-- The showing of an outcome; in place of a failure the empty answer is shown. -/
def showing (current : Request) : Option Response → Event
  | some response => .shown current response .arrival
  | none => .shown current .empty .failure

/-- The request of a fetch that is issued. -/
def issued? : Event → Option Request
  | .issued request => some request
  | _ => none

/-- What is on the screen after an event. -/
def screen (before : Response) : Event → Response
  | .shown _ response _ => response
  | _ => before

/-- The request whose answer is on the screen after an event. -/
def subject? (before : Option Request) : Event → Option Request
  | .shown current _ _ => some current
  | _ => before

end Event

/-- What is on the screen after the events of a run. -/
def screenAfter (events : List Event) : Response :=
  events.foldl Event.screen .empty

/-- The request whose answer is on the screen after the events of a run, if any was shown. -/
def subjectAfter? (events : List Event) : Option Request :=
  events.foldl Event.subject? none

@[simp]
theorem screenAfter_append (first second : List Event) :
    screenAfter (first ++ second) = second.foldl Event.screen (screenAfter first) :=
  List.foldl_append

@[simp]
theorem subjectAfter?_append (first second : List Event) :
    subjectAfter? (first ++ second) = second.foldl Event.subject? (subjectAfter? first) :=
  List.foldl_append

namespace Session

/-- The events when an outcome arrives. -/
def completionEvents (session : Session) (now : Instant) (ticket : Request)
    (outcome : Option Response) : List Event :=
  .ofOutcome ticket now outcome ::
    if session.isCurrent ticket then [.showing session.currentRequest outcome] else []

/-- The events of a load. -/
def loadEvents (session : Session) (visit : Visit) : List Event :=
  match session.cache.get? session.currentRequest visit.wantedAt with
  | some response => [.shown session.currentRequest response (.cache visit.wantedAt)]
  | none =>
      .issued session.currentRequest ::
        session.completionEvents visit.arrivedAt session.currentRequest
          (visit.engine session.currentRequest)

/-- The events of a refresh. -/
def refreshEvents (session : Session) (world : Surroundings) : List Event :=
  session.loadEvents world.first ++
    if session.Reloads world then (session.load world.first).clamp.loadEvents world.second else []

/-- The events of an action that loads no page. -/
def unloadedEvents (session : Session) (now : Instant) : Action → List Event
  | .begin => [.issued session.currentRequest]
  | .complete ticket outcome => session.completionEvents now ticket outcome
  | _ => []

/-- The events of an action. -/
def events (session : Session) (world : Surroundings) (action : Action) : List Event :=
  match session.prepared? world.now action with
  | some prepared => prepared.refreshEvents world
  | none => session.unloadedEvents world.now action

/-- The events of a run. -/
def history (session : Session) : List Step → List Event
  | [] => []
  | step :: rest =>
      session.events step.world step.action ++ (session.after step.world step.action).history rest

variable {session : Session} {visit : Visit} {world : Surroundings}

theorem completionEvents_of_isCurrent {ticket : Request}
    (current : session.isCurrent ticket = true) (now : Instant) (outcome : Option Response) :
    session.completionEvents now ticket outcome =
      [.ofOutcome ticket now outcome, .showing ticket outcome] := by
  obtain rfl := isCurrent_eq_true_iff.mp current
  rw [completionEvents, if_pos current]

theorem completionEvents_of_not_isCurrent {ticket : Request}
    (stale : session.isCurrent ticket = false) (now : Instant) (outcome : Option Response) :
    session.completionEvents now ticket outcome = [.ofOutcome ticket now outcome] := by
  rw [completionEvents, stale]
  rfl

theorem loadEvents_of_hit {response : Response}
    (cached : session.cache.get? session.currentRequest visit.wantedAt = some response) :
    session.loadEvents visit =
      [.shown session.currentRequest response (.cache visit.wantedAt)] := by
  rw [loadEvents, cached]

theorem loadEvents_of_miss
    (missing : session.cache.get? session.currentRequest visit.wantedAt = none) :
    session.loadEvents visit =
      .issued session.currentRequest :: session.completionEvents visit.arrivedAt
        session.currentRequest (visit.engine session.currentRequest) := by
  rw [loadEvents, missing]

theorem events_eq_refreshEvents {prepared : Session} {action : Action}
    (preparation : session.prepared? world.now action = some prepared) :
    session.events world action = prepared.refreshEvents world := by
  rw [events, preparation]

theorem events_eq_unloadedEvents {action : Action}
    (unprepared : session.prepared? world.now action = none) :
    session.events world action = session.unloadedEvents world.now action := by
  rw [events, unprepared]

theorem run_chronicle {motive : List Event → Session → Prop}
    (after : ∀ events session world action, motive events session →
      motive (events ++ session.events world action) (session.after world action))
    (events : List Event) (before : motive events session) (steps : List Step) :
    motive (events ++ session.history steps) (session.run steps) := by
  induction steps generalizing session events with
  | nil =>
      rw [history, List.append_nil]
      exact before
  | cons step rest inductionHypothesis =>
      rw [history, ← List.append_assoc]
      exact inductionHypothesis _ (after events session step.world step.action before)

theorem refresh_chronicle {motive : List Event → Session → Prop}
    (load : ∀ events session visit, motive events session →
      motive (events ++ session.loadEvents visit) (session.load visit))
    (clamp : ∀ events session, motive events session → motive events session.clamp)
    {events : List Event} (before : motive events session) :
    motive (events ++ session.refreshEvents world) (session.refresh world) := by
  have loaded := clamp _ _ (load events session world.first before)
  unfold refreshEvents
  by_cases reloads : session.Reloads world
  · rw [refresh_of_reloads reloads, if_pos reloads, ← List.append_assoc]
    exact load _ _ world.second loaded
  · rw [refresh_of_not_reloads reloads, if_neg reloads, List.append_nil]
    exact loaded

end Session

end FacetedSearch
