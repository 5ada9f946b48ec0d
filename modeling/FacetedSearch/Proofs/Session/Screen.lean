import FacetedSearch.Proofs.Session.Chronicle
import Mathlib.Data.List.Induction

/-!
# What the screen shows an answer to

The answer on the screen was shown for one request, and has stood there since.  That request is the
current one, except when the position was pulled back to the first page of a result without entries:
then the current request is for the first page, and the empty result of another page stands.
-/

namespace FacetedSearch

open Calendar

namespace Event

/-- Nothing is shown. -/
def Quiet (events : List Event) : Prop :=
  ∀ request response origin, .shown request response origin ∉ events

theorem quiet_singleton {event : Event}
    (other : ∀ request response origin, event ≠ .shown request response origin) :
    Quiet [event] := by
  intro request response origin membership
  exact other request response origin (List.mem_singleton.mp membership).symm

/-- The answer on the screen was shown for `request` after the events `before`, and nothing has been
shown since. -/
def StandsSince (events before : List Event) (request : Request) (response : Response) : Prop :=
  ∃ origin after, events = before ++ .shown request response origin :: after ∧ Quiet after

theorem StandsSince.append {events before : List Event} {request : Request} {response : Response}
    (stands : StandsSince events before request response) {more : List Event}
    (quiet : Quiet more) : StandsSince (events ++ more) before request response := by
  obtain ⟨origin, after, rfl, still⟩ := stands
  refine ⟨origin, after ++ more, by simp, ?_⟩
  intro other answer source membership
  rcases List.mem_append.mp membership with earlier | later
  · exact still other answer source earlier
  · exact quiet other answer source later

theorem exists_standsSince {events : List Event} {request : Request}
    (subject : subjectAfter? events = some request) :
    ∃ before, StandsSince events before request (screenAfter events) := by
  induction events using List.reverseRecOn with
  | nil => cases subject
  | append_singleton events event inductionHypothesis =>
      rw [subjectAfter?_append] at subject
      rw [screenAfter_append]
      cases event with
      | shown current response origin =>
          obtain rfl := Option.some.inj subject
          exact ⟨events, origin, [], rfl, fun _ _ _ membership => nomatch membership⟩
      | issued | delivered | failed =>
          obtain ⟨before, stands⟩ := inductionHypothesis subject
          exact ⟨before, stands.append (quiet_singleton fun _ _ _ => Event.noConfusion)⟩

/-- What was shown for another request was shown before. -/
theorem StandsSince.shown_before {events before : List Event} {request other : Request}
    {response answer : Response} {origin : Origin}
    (stands : StandsSince events before request response)
    (shown : .shown other answer origin ∈ events) (different : other ≠ request) :
    .shown other answer origin ∈ before := by
  obtain ⟨source, after, rfl, quiet⟩ := stands
  rcases List.mem_append.mp shown with earlier | late
  · exact earlier
  · rcases List.mem_cons.mp late with standing | later
    · exact absurd (Event.shown.inj standing).1 different
    · exact absurd later (quiet other answer origin)

end Event

namespace Session

variable {session : Session} {world : Surroundings}

/-- After the events so far, the screen shows an answer to the current request, or no results. -/
def Faces (events : List Event) (session : Session) : Prop :=
  session.shown.total = 0 ∨ subjectAfter? events = some session.currentRequest

theorem subjectAfter?_loadEvents (events : List Event) (session : Session) (visit : Visit) :
    subjectAfter? (events ++ session.loadEvents visit) = some session.currentRequest := by
  rw [subjectAfter?_append]
  cases cached : session.cache.get? session.currentRequest visit.wantedAt with
  | some response =>
      rw [loadEvents_of_hit cached]
      rfl
  | none =>
      rw [loadEvents_of_miss cached,
        completionEvents_of_isCurrent session.isCurrent_currentRequest]
      cases visit.engine session.currentRequest <;> rfl

theorem faces_refresh (events : List Event) (session : Session) (world : Surroundings) :
    Faces (events ++ session.refreshEvents world) (session.refresh world) := by
  unfold refreshEvents
  by_cases reloads : session.Reloads world
  · right
    rw [refresh_of_reloads reloads, if_pos reloads, ← List.append_assoc,
      subjectAfter?_loadEvents, currentRequest_load]
  · rw [refresh_of_not_reloads reloads, if_neg reloads, List.append_nil]
    cases past : (session.load world.first).paging.isPastEnd with
    | true =>
        left
        have empty : ¬0 < (session.found world.first).total := fun full => reloads ⟨past, full⟩
        have shown : (session.load world.first).clamp.shown = session.found world.first :=
          shown_load
        rw [shown]
        exact UInt64.le_antisymm (UInt64.not_lt.mp empty) UInt64.zero_le
    | false =>
        right
        rw [clamp_of_not_isPastEnd past, subjectAfter?_loadEvents, currentRequest_load]

theorem Faces.complete {events : List Event} (faces : Faces events session) (now : Instant)
    (ticket : Request) (outcome : Option Response) :
    Faces (events ++ session.completionEvents now ticket outcome)
      (session.complete now ticket outcome) := by
  cases current : session.isCurrent ticket with
  | true =>
      right
      obtain rfl := isCurrent_eq_true_iff.mp current
      rw [complete_of_isCurrent current, completionEvents_of_isCurrent current,
        subjectAfter?_append]
      cases outcome <;> rfl
  | false =>
      rw [complete_of_not_isCurrent current, completionEvents_of_not_isCurrent current, Faces,
        subjectAfter?_append]
      cases outcome <;> exact faces

theorem Faces.after {events : List Event} (faces : Faces events session) (world : Surroundings)
    (action : Action) :
    Faces (events ++ session.events world action) (session.after world action) := by
  cases preparation : session.prepared? world.now action with
  | some prepared =>
      rw [after_eq_refresh preparation, events_eq_refreshEvents preparation]
      exact faces_refresh events prepared world
  | none =>
      rw [after_eq_unloaded preparation, events_eq_unloadedEvents preparation]
      cases action with
      | complete ticket outcome => exact faces.complete world.now ticket outcome
      | begin =>
          rw [Faces, subjectAfter?_append]
          exact faces
      | _ =>
          simp only [unloadedEvents, List.append_nil]
          exact faces

end Session

end FacetedSearch
