import FacetedSearch.Proofs.Session.Aim

/-!
# What an observer is told

Observers are told in rounds.  When an action has changed the expression, each observer is told
once, in the order in which they registered; otherwise nobody is told anything.  So what an observer
knows, from its registration on, is the current expression at any time, and it is never told what it
knows already.

Several observers may have one name, so an observer is known by its place in the order of
registration.
-/

namespace FacetedSearch

/-- The notices for the observer at a place, where they come in rounds over a number of places. -/
def noticesAt (place count : Nat) (notices : List Notice) : List Notice :=
  (notices.zipIdx.filter fun entry => entry.2 % count == place).map (·.1)

theorem filter_zipIdx_eq (notices : List Notice) (start place : Nat) :
    ((notices.zipIdx start).filter fun entry => entry.2 == start + place).map (·.1) =
      notices[place]?.toList := by
  induction notices generalizing start place with
  | nil => rfl
  | cons notice rest inductionHypothesis =>
      rw [List.zipIdx_cons]
      cases place with
      | zero =>
          have later : ∀ entry ∈ rest.zipIdx (start + 1), ¬(entry.2 == start + 0) = true := by
            intro entry membership
            have behind := List.le_snd_of_mem_zipIdx membership
            simp only [beq_iff_eq]
            omega
          rw [List.filter_cons_of_pos (by simp), List.filter_eq_nil_iff.mpr later]
          rfl
      | succ place =>
          rw [List.filter_cons_of_neg (by simp), List.getElem?_cons_succ,
            ← inductionHypothesis (start + 1) place]
          simp only [Nat.add_assoc, Nat.add_comm 1]

/-- One round holds one notice for each place. -/
theorem noticesAt_of_length_eq {notices : List Notice} {place count : Nat}
    (round : notices.length = count) :
    noticesAt place count notices = notices[place]?.toList := by
  have index := filter_zipIdx_eq notices 0 place
  rw [← index]
  unfold noticesAt
  congr 1
  apply List.filter_congr
  intro entry membership
  have within := List.snd_lt_of_mem_zipIdx membership
  rw [Nat.zero_add, Nat.mod_eq_of_lt (by omega)]

namespace Aim

/-- What the observers are told of an expression: nothing when it is the one they know. -/
def round (aim : Aim) (expression : Expression) : List Notice :=
  if expression = aim.expression then []
  else aim.observers.map fun observer => ⟨observer, expression⟩

@[simp]
theorem round_expression (aim : Aim) : aim.round aim.expression = [] :=
  if_pos rfl

/-- An observer is told of an expression once, unless it knows it. -/
theorem noticesAt_round {aim : Aim} {place : Nat} {observer : String}
    (registered : aim.observers[place]? = some observer) (expression : Expression) :
    noticesAt place aim.observers.length (aim.round expression) =
      if expression = aim.expression then [] else [⟨observer, expression⟩] := by
  unfold round
  split
  next => rfl
  next =>
    rw [noticesAt_of_length_eq (List.length_map _), List.getElem?_map, registered]
    rfl

/-- An action makes at most one round, of the expression that it leaves. -/
theorem notices_act (aim : Aim) (today : Calendar.Date) (action : Action) :
    (aim.act today action).notices =
      aim.notices ++ aim.round (aim.act today action).expression := by
  cases action with
  | removeFilter position =>
      cases there : aim.query.filters.at? position with
      | some filter =>
          simp only [act, there]
          rfl
      | none =>
          simp only [act, there]
          rw [round_expression, List.append_nil]
  | observe | edit | goTo | next | previous | refresh | begin | complete | bookmark =>
      exact (List.append_nil _).symm.trans (congrArg _ aim.round_expression.symm)
  | _ => rfl

/-- An observer keeps its place. -/
theorem observer_act {aim : Aim} {place : Nat} {observer : String}
    (registered : aim.observers[place]? = some observer) (today : Calendar.Date)
    (action : Action) : (aim.act today action).observers[place]? = some observer := by
  cases action with
  | observe newcomer =>
      obtain ⟨within, _⟩ := List.getElem?_eq_some_iff.mp registered
      exact (List.getElem?_append_left within).trans registered
  | removeFilter position =>
      cases there : aim.query.filters.at? position with
      | some filter =>
          simp only [act, there]
          exact registered
      | none =>
          simp only [act, there]
          exact registered
  | _ => exact registered

end Aim

namespace Session

variable {session : Session} {place : Nat} {observer : String}

/-- The notices that an action adds. -/
def told (session : Session) (world : Surroundings) (action : Action) : List Notice :=
  (session.after world action).notices.drop session.notices.length

/-- What an action tells the observer at a place. -/
def toldAt (place : Nat) (session : Session) (world : Surroundings) (action : Action) :
    List Notice :=
  noticesAt place session.observers.length (session.told world action)

/-- What the observer at a place is told in a run. -/
def heard (place : Nat) (session : Session) : List Step → List Notice
  | [] => []
  | step :: rest =>
      session.toldAt place step.world step.action ++
        (session.after step.world step.action).heard place rest

/-- The expressions that the observer at a place knows in a run, one after the other, when it starts
with the one that is there. -/
def known (place : Nat) (session : Session) (steps : List Step) : List Expression :=
  session.expression :: (session.heard place steps).map (·.expression)

theorem notices_after (session : Session) (world : Surroundings) (action : Action) :
    (session.after world action).notices =
      session.notices ++ session.aim.round (session.after world action).expression := by
  have aim := session.aim_after world action
  have notices := session.aim.notices_act world.now.date action
  rw [← aim] at notices
  exact notices

theorem told_eq (session : Session) (world : Surroundings) (action : Action) :
    session.told world action = session.aim.round (session.after world action).expression := by
  rw [told, notices_after, List.drop_left]

theorem observer_after (registered : session.observers[place]? = some observer)
    (world : Surroundings) (action : Action) :
    (session.after world action).observers[place]? = some observer := by
  have present : session.aim.observers[place]? = some observer := registered
  have kept := Aim.observer_act present world.now.date action
  rw [← aim_after] at kept
  exact kept

theorem observer_run (registered : session.observers[place]? = some observer)
    (steps : List Step) : (session.run steps).observers[place]? = some observer := by
  induction steps generalizing session with
  | nil => exact registered
  | cons step rest inductionHypothesis =>
      exact inductionHypothesis (observer_after registered step.world step.action)

theorem toldAt_eq (registered : session.observers[place]? = some observer)
    (world : Surroundings) (action : Action) :
    session.toldAt place world action =
      if (session.after world action).expression = session.expression then []
      else [⟨observer, (session.after world action).expression⟩] := by
  have present : session.aim.observers[place]? = some observer := registered
  unfold toldAt
  rw [told_eq]
  exact Aim.noticesAt_round present _

theorem known_cons (registered : session.observers[place]? = some observer) (step : Step)
    (rest : List Step) :
    let after := session.after step.world step.action
    session.known place (step :: rest) =
      if after.expression = session.expression then after.known place rest
      else session.expression :: after.known place rest := by
  intro after
  unfold known
  rw [heard, toldAt_eq registered]
  split
  next same => rw [List.nil_append, ← same]
  next => rfl

/-- An observer never learns what it knows already. -/
theorem isChain_known (registered : session.observers[place]? = some observer)
    (steps : List Step) : (session.known place steps).IsChain (· ≠ ·) := by
  induction steps generalizing session with
  | nil => exact .singleton _
  | cons step rest inductionHypothesis =>
      have later := inductionHypothesis (observer_after registered step.world step.action)
      rw [known_cons registered]
      split
      next => exact later
      next changed => exact .cons_cons (Ne.symm changed) later

theorem getLast?_known (registered : session.observers[place]? = some observer)
    (steps : List Step) :
    (session.known place steps).getLast? = some (session.run steps).expression := by
  induction steps generalizing session with
  | nil => rfl
  | cons step rest inductionHypothesis =>
      have later := inductionHypothesis (observer_after registered step.world step.action)
      rw [known_cons registered, run, ← later]
      split
      next => rfl
      next => exact List.getLast?_cons_cons

/-- Whatever has been done before an observer registers, and whatever is done afterwards: it keeps
its place, and an action that leaves another expression than before tells this one to each observer
once, while any other action tells nobody anything.  The expressions that the observer has been
told, behind the one at its registration, change from each to the next, and the last of them is the
current one. -/
theorem toldAt_after_observe (session : Session) (world : Surroundings) (observer : String)
    (steps : List Step) (next : Step) :
    let place := session.observers.length
    let registered := session.after world (.observe observer)
    let before := registered.run steps
    let after := before.after next.world next.action
    let known := registered.known place steps
    before.observers[place]? = some observer ∧
      after.notices = before.notices ++
        (if after.expression = before.expression then []
        else before.observers.map fun each => ⟨each, after.expression⟩) ∧
      before.toldAt place next.world next.action =
        (if after.expression = before.expression then [] else [⟨observer, after.expression⟩]) ∧
      known.IsChain (· ≠ ·) ∧ known.getLast? = some before.expression := by
  intro place registered before after known
  have present : registered.observers[place]? = some observer := List.getElem?_concat_length
  have kept : before.observers[place]? = some observer := observer_run present steps
  have notices : after.notices = before.notices ++ before.aim.round after.expression :=
    before.notices_after next.world next.action
  exact ⟨kept, notices, toldAt_eq kept next.world next.action, isChain_known present steps,
    getLast?_known present steps⟩

/-- A session that has searched, with one observer. -/
def watchedSession : Session :=
  (start .default .default).run
    [⟨uniform .epoch none, .observe "mapa"⟩, ⟨uniform .epoch none, .submit "multa"⟩]

/-- A facet that is selected and let go of, with a new load in between. -/
def returningRun : List Step :=
  [⟨uniform .epoch none, .toggleFacet "situacao_s" "Aberto"⟩, ⟨uniform .epoch none, .refresh⟩,
    ⟨uniform .epoch none, .toggleFacet "situacao_s" "Aberto"⟩]

/-- The second observer is told of the facet and of its end, then of other free text; the same free
text with a blank behind it is no news. -/
theorem toldAt_after_observe_returningRun :
    let world := uniform .epoch none
    let place := watchedSession.observers.length
    let registered := watchedSession.after world (.observe "lista")
    let before := registered.run returningRun
    place = 1 ∧ before.observers[place]? = some "lista" ∧
      (registered.known place returningRun).map (·.text) =
        ["multa", "multa AND ((situacao_s:\"Aberto\"))", "multa"] ∧
      (registered.known place returningRun).IsChain (· ≠ ·) ∧
      before.toldAt place world (.submit "acme") = [⟨"lista", ⟨"acme"⟩⟩] ∧
      (before.after world (.submit "acme")).notices =
        before.notices ++ [⟨"mapa", ⟨"acme"⟩⟩, ⟨"lista", ⟨"acme"⟩⟩] ∧
      before.toldAt place world (.submit "multa ") = [] := by
  intro world place registered before
  obtain ⟨kept, notices, told, chain, -⟩ :=
    toldAt_after_observe watchedSession world "lista" returningRun ⟨world, .submit "acme"⟩
  obtain ⟨-, -, untold, -⟩ :=
    toldAt_after_observe watchedSession world "lista" returningRun ⟨world, .submit "multa "⟩
  exact ⟨by decide +kernel, kept, by decide +kernel, chain, told.trans (by decide +kernel),
    notices.trans (congrArg _ (by decide +kernel)), untold.trans (by decide +kernel)⟩

end Session

end FacetedSearch
