import FacetedSearch.Proofs.Session.PageRange
import Mathlib.Data.List.Forall2

/-!
# What is searched for does not depend on the engine

The aim of a session is what it searches for, with what its observers have been told.  `Aim.act`
says how actions change it, from the aim, the action and the day alone: neither the answers of the
engine nor the cache, the position or the time of day have a part in it.  `aim_after` shows that a
session keeps to this, and so two sessions with the same aim, of which the same is asked, have the
same aim throughout, whatever their engines answer and whatever outcomes come in between.
-/

namespace FacetedSearch

open Calendar

/-- What a session searches for, and what its observers have been told of it. -/
structure Aim where
  registry : Registry
  form : Form
  query : Query
  expression : Expression
  observers : List String
  notices : List Notice
deriving DecidableEq

namespace Action

/-- Whether an action looks at the day, to collect the filters of the form. -/
def collects : Action → Bool
  | .applyForm | .restoreWithForm _ => true
  | _ => false

/-- Whether an action is asked of a session; the coming in of an outcome is not. -/
def isAsked : Action → Bool
  | .complete _ _ => false
  | _ => true

/-- Whether the answer of an action is about the position or the request that is current. -/
def isPagewise : Action → Bool
  | .goTo _ | .next | .previous | .begin | .complete _ _ | .bookmark => true
  | _ => false

end Action

def Query.opened (query : Query) (bookmark : Bookmark) : Query :=
  { query with
    freeText := Text.trimmed bookmark.freeText
    facets := .ofTable bookmark.facets }

namespace Aim

def collected (aim : Aim) (today : Date) : FilterSet :=
  ⟨aim.form.collect aim.registry today⟩

/-- The aim at another query; the observers are told when its expression is another one. -/
def turnTo (aim : Aim) (query : Query) : Aim :=
  { aim with
    query
    expression := query.compile
    notices := aim.notices ++
      if query.compile = aim.expression then []
      else aim.observers.map fun observer => ⟨observer, query.compile⟩ }

def act (aim : Aim) (today : Date) : Action → Aim
  | .observe observer => { aim with observers := aim.observers ++ [observer] }
  | .edit change => { aim with form := aim.form.apply change }
  | .submit text => aim.turnTo { aim.query with freeText := Text.trimmed text }
  | .applyForm => aim.turnTo { aim.query with filters := aim.collected today }
  | .removeFilter position =>
      match aim.query.filters.at? position with
      | some _ => aim.turnTo { aim.query with filters := aim.query.filters.removeAt position }
      | none => aim
  | .clearAll =>
      { aim with form := aim.form.reset }.turnTo
        { aim.query with filters := .empty, facets := .empty }
  | .toggleFacet field value =>
      aim.turnTo { aim.query with facets := aim.query.facets.toggle field value }
  | .clearFacets => aim.turnTo { aim.query with facets := .empty }
  | .restoreFacets facets => aim.turnTo { aim.query with facets := .ofTable facets }
  | .restore bookmark => aim.turnTo (aim.query.opened bookmark)
  | .restoreWithForm bookmark =>
      aim.turnTo ({ aim.query with filters := aim.collected today }.opened bookmark)
  | .goTo _ | .next | .previous | .refresh | .begin | .complete _ _ | .bookmark => aim

/-- The answer of an action, unless it is about position or request. -/
def answer? (aim : Aim) : Action → Option Answer
  | .edit change => some (Session.editAnswer (aim.form.apply change) change)
  | .removeFilter position => some (.removed (aim.query.filters.at? position))
  | .toggleFacet field value => some (.verdict (aim.query.facets.togglesOn field value))
  | action => if action.isPagewise then none else some .nothing

def trace (aim : Aim) : List Step → List (Option Answer × Aim)
  | [] => []
  | step :: rest =>
      let next := aim.act step.world.now.date step.action
      (aim.answer? step.action, next) :: next.trace rest

def run (aim : Aim) (steps : List Step) : Aim :=
  steps.foldl (fun aim step => aim.act step.world.now.date step.action) aim

end Aim

/-- Two steps ask the same, on the same day if the day is looked at. -/
structure Step.Alike (step other : Step) : Prop where
  action : step.action = other.action
  day : step.action.collects = true → step.world.now.date = other.world.now.date

namespace Aim

theorem act_of_not_isAsked {action : Action} (unasked : ¬action.isAsked = true) (aim : Aim)
    (today : Date) : aim.act today action = aim := by
  cases action with
  | complete => rfl
  | _ => exact absurd rfl unasked

theorem act_eq_of_alike {step other : Step} (alike : step.Alike other) (aim : Aim) :
    aim.act step.world.now.date step.action = aim.act other.world.now.date other.action := by
  have day := alike.day
  rw [← alike.action]
  cases acting : step.action with
  | applyForm | restoreWithForm =>
      rw [acting] at day
      rw [day rfl]
  | _ => rfl

theorem trace_eq_of_alike {steps others : List Step}
    (alike : List.Forall₂ Step.Alike steps others) (aim : Aim) :
    aim.trace steps = aim.trace others := by
  induction alike generalizing aim with
  | nil => rfl
  | cons head _ inductionHypothesis =>
      unfold trace
      simp only [act_eq_of_alike head aim, inductionHypothesis]
      rw [head.action]

theorem run_eq_of_alike {steps others : List Step}
    (alike : List.Forall₂ Step.Alike steps others) (aim : Aim) :
    aim.run steps = aim.run others := by
  induction alike generalizing aim with
  | nil => rfl
  | cons head _ inductionHypothesis =>
      exact (congrArg (run · _) (act_eq_of_alike head aim)).trans (inductionHypothesis _)

@[simp]
theorem run_filter (steps : List Step) (aim : Aim) :
    aim.run (steps.filter (·.action.isAsked)) = aim.run steps := by
  unfold run
  rw [List.foldl_filter]
  congr 1
  funext aim step
  by_cases asked : step.action.isAsked = true
  · rw [if_pos asked]
  · rw [if_neg asked, act_of_not_isAsked asked]

end Aim

namespace Session

variable {session prepared : Session} {world : Surroundings} {now : Instant} {action : Action}

def aim (session : Session) : Aim where
  registry := session.registry
  form := session.form
  query := session.query
  expression := session.expression
  observers := session.observers
  notices := session.notices

/-- The answers and aims of a session after all that is asked of it in a run. -/
def aims (session : Session) : List Step → List (Option Answer × Aim)
  | [] => []
  | step :: rest =>
      let (answer, after) := session.perform step.world step.action
      if step.action.isAsked then
        (if step.action.isPagewise then none else some answer, after.aim) :: after.aims rest
      else after.aims rest

theorem aim_start (registry : Registry) (settings other : Settings) :
    (start registry settings).aim = (start registry other).aim := by
  simp only [aim, start]

/-! ## One action -/

@[simp]
theorem aim_load (session : Session) (visit : Visit) : (session.load visit).aim = session.aim := by
  rw [load_eq]
  rfl

@[simp]
theorem aim_refresh (session : Session) (world : Surroundings) :
    (session.refresh world).aim = session.aim := by
  refine refresh_preserves (motive := fun loaded => loaded.aim = session.aim) ?_ ?_ rfl
  · intro loading visit _ held
    rw [aim_load]
    exact held
  · exact fun _ held => held

@[simp]
theorem aim_complete (session : Session) (now : Instant) (ticket : Request)
    (outcome : Option Response) : (session.complete now ticket outcome).aim = session.aim := by
  cases current : session.isCurrent ticket with
  | true =>
      rw [complete_of_isCurrent current]
      rfl
  | false =>
      rw [complete_of_not_isCurrent current]
      rfl

@[simp]
theorem aim_recompile (session : Session) :
    session.recompile.aim = session.aim.turnTo session.query := by
  rw [recompile_eq]
  rfl

@[simp]
theorem aim_turnTo (session : Session) (query : Query) :
    (session.turnTo query).aim = session.aim.turnTo query := by
  unfold turnTo
  rw [aim_recompile]
  rfl

@[simp]
theorem aim_openBookmark (session : Session) (bookmark : Bookmark) :
    (session.openBookmark bookmark).recompile.aim =
      session.aim.turnTo (session.query.opened bookmark) := by
  rw [aim_recompile]
  rfl

theorem aim_of_prepared? (preparation : session.prepared? now action = some prepared) :
    prepared.aim = session.aim.act now.date action := by
  cases action with
  | submit | applyForm | toggleFacet | clearFacets | restoreFacets | clearAll =>
      obtain rfl := Option.some.inj preparation
      exact aim_turnTo _ _
  | removeFilter position =>
      obtain ⟨filter, present, rfl⟩ := Option.map_eq_some_iff.mp preparation
      have there : session.aim.query.filters.at? position = some filter := present
      simp only [Aim.act, there]
      exact aim_turnTo _ _
  | goTo | next | previous =>
      obtain ⟨paging, _, rfl⟩ := Option.map_eq_some_iff.mp preparation
      rfl
  | refresh =>
      obtain rfl := Option.some.inj preparation
      rfl
  | restore | restoreWithForm =>
      obtain rfl := Option.some.inj preparation
      exact aim_openBookmark _ _
  | observe | edit | begin | complete | bookmark => cases preparation

theorem aim_unloaded (unprepared : session.prepared? now action = none) :
    (session.unloaded now action).aim = session.aim.act now.date action := by
  cases action with
  | complete ticket outcome => exact session.aim_complete now ticket outcome
  | removeFilter position =>
      have absent : session.aim.query.filters.at? position = none :=
        Option.map_eq_none_iff.mp unprepared
      simp only [Aim.act, absent]
      rfl
  | submit | applyForm | clearAll | toggleFacet | clearFacets | restoreFacets | refresh | restore
  | restoreWithForm => cases unprepared
  | observe | edit | goTo | next | previous | begin | bookmark => rfl

@[simp]
theorem aim_after (session : Session) (world : Surroundings) (action : Action) :
    (session.after world action).aim = session.aim.act world.now.date action := by
  cases preparation : session.prepared? world.now action with
  | some prepared =>
      rw [after_eq_refresh preparation, aim_refresh]
      exact aim_of_prepared? preparation
  | none =>
      rw [after_eq_unloaded preparation]
      exact aim_unloaded preparation

theorem answer?_aim (session : Session) (world : Surroundings) (action : Action) :
    (if action.isPagewise then none else some (session.perform world action).1) =
      session.aim.answer? action := by
  rw [perform_eq]
  cases action <;> rfl

/-! ## Whole runs -/

@[simp]
theorem aim_run (session : Session) (steps : List Step) :
    (session.run steps).aim = session.aim.run steps := by
  induction steps generalizing session with
  | nil => rfl
  | cons step rest inductionHypothesis =>
      rw [run, inductionHypothesis, aim_after]
      rfl

theorem aims_eq_trace (session : Session) (steps : List Step) :
    session.aims steps = session.aim.trace (steps.filter (·.action.isAsked)) := by
  induction steps generalizing session with
  | nil => rfl
  | cons step rest inductionHypothesis =>
      have next : (session.perform step.world step.action).2.aim = _ :=
        session.aim_after step.world step.action
      unfold aims
      simp only [answer?_aim, inductionHypothesis, next, List.filter_cons]
      by_cases asked : step.action.isAsked = true
      · rw [if_pos asked, if_pos asked]
        rfl
      · -- An outcome that comes in leaves the aim alone, and so it drops out of the run.
        rw [if_neg asked, if_neg asked, Aim.act_of_not_isAsked asked]

/-- Two sessions that search for the same, of which the same is asked, on the same day where the day
is looked at, give the same answers and search for the same after all that is asked of them, and
their observers are told the same.  The outcomes that come in, what the engines answer, and all that
the sessions have on their screens and in their caches may differ. -/
theorem aims_eq_of_alike {session other : Session} {steps others : List Step}
    (same : session.aim = other.aim)
    (alike : List.Forall₂ Step.Alike
      (steps.filter (·.action.isAsked)) (others.filter (·.action.isAsked))) :
    session.aims steps = other.aims others ∧
      (session.run steps).aim = (other.run others).aim := by
  constructor
  · rw [aims_eq_trace, aims_eq_trace, same, Aim.trace_eq_of_alike alike]
  · rw [aim_run, aim_run, same, ← Aim.run_filter, Aim.run_eq_of_alike alike, Aim.run_filter]

/-- What is asked in a run over an engine that works, all at one time. -/
def answeredRun : List Step :=
  ([.observe "screen", .edit (.setText "Tributo ACT" "IRPF" .equals),
    .edit (.setDates "Protocolo" "1969-12-01" ""), .applyForm, .toggleFacet "situacao_s" "Aberto",
    .next, .removeFilter 0, .restoreWithForm ⟨" multa ", .empty, 2⟩] : List Action).map
    fun action => ⟨uniform .epoch (some 25), action⟩

/-- The same on another screen: the engine is down, an outcome comes in, and the clock stands
elsewhere, though within the same day where the form is read. -/
def failedRun : List Step :=
  let earlier := uniform ⟨-86400000000000, by decide, by decide⟩ none
  let later := uniform ⟨86399999999999, by decide, by decide⟩ none
  [⟨earlier, .observe "screen"⟩, ⟨earlier, .edit (.setText "Tributo ACT" "IRPF" .equals)⟩,
    ⟨earlier, .edit (.setDates "Protocolo" "1969-12-01" "")⟩, ⟨later, .applyForm⟩,
    ⟨later, .complete ⟨"*:*", 1, 3⟩ (some ⟨[], 7, .empty⟩)⟩,
    ⟨earlier, .toggleFacet "situacao_s" "Aberto"⟩, ⟨later, .next⟩, ⟨earlier, .removeFilter 0⟩,
    ⟨later, .restoreWithForm ⟨" multa ", .empty, 2⟩⟩]

theorem aims_eq_of_alike_failedRun :
    let session := start .default .default
    let other := start .default { Settings.default with pageSize := 3, maxAgeSeconds := 0 }
    session.aims answeredRun = other.aims failedRun ∧
      (session.run answeredRun).aim = (other.run failedRun).aim ∧
      (other.run failedRun).expression.text = "multa tributo_act_s:\"IRPF\" " ++
        "dt_protocolo_tdt:[1969-12-01T00:00:00Z TO 1970-01-01T23:59:59Z]" ∧
      (session.run answeredRun).paging = ⟨2, 10, 25⟩ ∧
      (other.run failedRun).paging = ⟨1, 3, 0⟩ := by
  intro session other
  have alike : List.Forall₂ Step.Alike (answeredRun.filter (·.action.isAsked))
      (failedRun.filter (·.action.isAsked)) := by
    have sameDay : Instant.epoch.date = Instant.date ⟨86399999999999, by decide, by decide⟩ := by
      decide +kernel
    exact .cons ⟨rfl, nofun⟩ <| .cons ⟨rfl, nofun⟩ <| .cons ⟨rfl, nofun⟩ <|
      .cons ⟨rfl, fun _ => sameDay⟩ <| .cons ⟨rfl, nofun⟩ <| .cons ⟨rfl, nofun⟩ <|
      .cons ⟨rfl, nofun⟩ <| .cons ⟨rfl, fun _ => sameDay⟩ .nil
  have same : session.aim = other.aim := aim_start .default _ _
  have agreed := aims_eq_of_alike same alike
  exact ⟨agreed.1, agreed.2, by decide +kernel, by decide +kernel, by decide +kernel⟩

end Session

end FacetedSearch
