import FacetedSearch.Proofs.Session.Loading

/-!
The moments at which a request is handed to the engine.

A load that does not find its page in the cache hands the current request over and waits; what it
has done until then is a look-up in the cache.  An action hands over at most two requests, and what
it sends are the current requests of these moments, in order.
-/

namespace FacetedSearch

open Calendar

namespace Session

variable {session : Session} {visit : Visit} {world : Surroundings}

/-- The session at the moment when a load hands the current request to the engine. -/
def handover (session : Session) (visit : Visit) : Session :=
  { session with
    cache := session.cache.afterGet session.currentRequest visit.wantedAt
    sent := session.sent ++ [session.currentRequest] }

/-- The handovers of a load: one, unless the cache has the page. -/
def loadHandovers (session : Session) (visit : Visit) : List Session :=
  match session.cache.get? session.currentRequest visit.wantedAt with
  | some _ => []
  | none => [session.handover visit]

def refreshHandovers (session : Session) (world : Surroundings) : List Session :=
  session.loadHandovers world.first ++
    if session.Reloads world then (session.load world.first).clamp.loadHandovers world.second
    else []

/-- The session at each moment of an action when a request is handed to the engine. -/
def handovers (session : Session) (world : Surroundings) (action : Action) : List Session :=
  match session.prepared? world.now action with
  | some prepared => prepared.refreshHandovers world
  | none => []

theorem sentAfterLoad_eq (session : Session) (visit : Visit) :
    session.sentAfterLoad visit =
      session.sent ++ (session.loadHandovers visit).map currentRequest := by
  unfold sentAfterLoad loadHandovers
  cases session.cache.get? session.currentRequest visit.wantedAt with
  | some response => exact (List.append_nil _).symm
  | none => rfl

theorem sent_load : (session.load visit).sent = session.sentAfterLoad visit := by
  rw [load_eq]
  rfl

theorem sent_refresh (session : Session) (world : Surroundings) :
    (session.refresh world).sent =
      session.sent ++ (session.refreshHandovers world).map currentRequest := by
  have first : (session.load world.first).clamp.sent =
      session.sent ++ (session.loadHandovers world.first).map currentRequest :=
    sent_load.trans (session.sentAfterLoad_eq world.first)
  unfold refreshHandovers
  by_cases reloads : session.Reloads world
  · rw [refresh_of_reloads reloads, if_pos reloads, sent_load, sentAfterLoad_eq, first,
      List.map_append, List.append_assoc]
  · rw [refresh_of_not_reloads reloads, if_neg reloads, first, List.append_nil]

@[simp]
theorem sent_complete (session : Session) (now : Instant) (ticket : Request)
    (outcome : Option Response) : (session.complete now ticket outcome).sent = session.sent := by
  cases current : session.isCurrent ticket with
  | true =>
      rw [complete_of_isCurrent current]
      rfl
  | false => rw [complete_of_not_isCurrent current]

/-- What an action sends are the current requests at its handovers. -/
theorem sent_after (session : Session) (world : Surroundings) (action : Action) :
    (session.after world action).sent =
      session.sent ++ (session.handovers world action).map currentRequest := by
  unfold handovers
  cases preparation : session.prepared? world.now action with
  | some prepared =>
      rw [after_eq_refresh preparation, sent_refresh, (leaves_of_prepared? preparation).sent]
  | none =>
      rw [after_eq_unloaded preparation, List.map_nil, List.append_nil]
      cases action with
      | complete ticket outcome => exact session.sent_complete world.now ticket outcome
      | _ => rfl

end Session

end FacetedSearch
