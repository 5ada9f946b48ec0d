import FacetedSearch.Proofs.Paging
import FacetedSearch.Proofs.Session.Coherence
import FacetedSearch.Proofs.Session.Transparency

/-!
# Screen and request agree while the engine is stable

A stable engine always answers, and the total it reports depends on the query alone.  Then all
totals that the cache holds for a query agree, so pulling a position back once is enough: the page
that the second load asks for exists.  After every action that loads a page the screen shows the
engine's answer to the current request, and a second request is for the last page of its query.
-/

namespace FacetedSearch

open Calendar

/-- An engine that always answers, with a total that depends on the query alone. -/
structure StableEngine where
  answer : Request → Response
  total : String → UInt64
  total_answer : ∀ request, (answer request).total = total request.query

namespace StableEngine

variable {engine : StableEngine}

/-- What the engine answers to a call. -/
def respond (engine : StableEngine) (request : Request) : Option Response :=
  some (engine.answer request)

/-- The number of pages of the size of a request that the engine has for its query. -/
def pages (engine : StableEngine) (request : Request) : Nat :=
  (engine.total request.query).toNat ⌈/⌉ request.size.toNat

/-- The engine has results for the query of a request, but not up to its page. -/
def Overshoots (engine : StableEngine) (request : Request) : Prop :=
  0 < engine.total request.query ∧ engine.pages request < request.page.toNat

instance (engine : StableEngine) (request : Request) : Decidable (engine.Overshoots request) :=
  inferInstanceAs (Decidable (_ ∧ _))

/-- The requests that it takes to show a page: one for the page itself, and one for the last page of
its query when there are results, but none on that page. -/
def needed (engine : StableEngine) (request : Request) : List Request :=
  if engine.Overshoots request then
    [request, { request with page := UInt64.ofNat (engine.pages request) }]
  else [request]

theorem length_needed_le (engine : StableEngine) (request : Request) :
    (engine.needed request).length ≤ 2 := by
  unfold needed
  split
  next => exact Nat.le_refl 2
  next => exact Nat.le_succ 1

end StableEngine

namespace Session

variable {engine : StableEngine} {session : Session} {visit : Visit} {world : Surroundings}

/-- The screen shows what the engine answers to the current request, which is for a page that there
is, or no results on the first page. -/
structure AgreesWith (engine : StableEngine) (session : Session) : Prop where
  full : 0 < engine.total session.expression.text →
    session.shown = engine.answer session.currentRequest ∧
      1 ≤ session.paging.page ∧
      session.paging.page.toNat ≤ engine.pages session.currentRequest
  empty : engine.total session.expression.text = 0 →
    session.paging.page = 1 ∧ session.shown.total = 0

/-- The screen shows no results, or as many as the engine has for the current query. -/
def Counted (engine : StableEngine) (session : Session) : Prop :=
  session.paging.total = 0 ∨ session.paging.total = engine.total session.expression.text

/-! ## One refresh -/

@[simp]
theorem expression_load (session : Session) (visit : Visit) :
    (session.load visit).expression = session.expression := by
  rw [load_eq]
  rfl

@[simp]
theorem expression_refresh (session : Session) (world : Surroundings) :
    (session.refresh world).expression = session.expression := by
  refine refresh_preserves (motive := fun loaded => loaded.expression = session.expression)
    ?_ ?_ rfl
  · intro loading visit _ held
    rw [expression_load]
    exact held
  · exact fun _ held => held

section Refresh

variable (truthful : session.Truthful engine.respond) (positive : 1 ≤ session.paging.page)
  (sized : 0 < session.paging.size)

include truthful in
theorem found_eq_answer (visiting : visit.engine = engine.respond) :
    session.found visit = engine.answer session.currentRequest := by
  rw [truthful.found_eq visiting]
  rfl

include truthful in
theorem total_found (visiting : visit.engine = engine.respond) :
    (session.found visit).total = engine.total session.expression.text := by
  rw [found_eq_answer truthful visiting]
  exact engine.total_answer session.currentRequest

include truthful in
theorem toNat_pages_load (visiting : visit.engine = engine.respond) :
    (session.load visit).paging.pages.toNat = engine.pages session.currentRequest := by
  rw [paging_load, total_found truthful visiting, Paging.toNat_pages]
  rfl

include truthful sized in
theorem lastPage_load (visiting : visit.engine = engine.respond)
    (full : 0 < engine.total session.expression.text) :
    (session.load visit).paging.lastPage = UInt64.ofNat (engine.pages session.currentRequest) := by
  have filled : 1 ≤ (session.load visit).paging.pages := by
    apply Paging.one_le_pages
    · rw [paging_load]
      exact sized
    · rw [paging_load, total_found truthful visiting]
      exact full
  rw [Paging.lastPage_of_one_le_pages filled, ← toNat_pages_load truthful visiting,
    UInt64.ofNat_toNat]

include truthful sized in
/-- When there are results, the page wanted is past the end exactly when the engine says so. -/
theorem isPastEnd_load_iff (visiting : visit.engine = engine.respond)
    (full : 0 < engine.total session.expression.text) :
    (session.load visit).paging.isPastEnd = true ↔
      engine.pages session.currentRequest < session.paging.page.toNat := by
  rw [Paging.isPastEnd_eq_true_iff, lastPage_load truthful sized visiting full,
    ← toNat_pages_load truthful visiting, UInt64.ofNat_toNat, UInt64.lt_iff_toNat_lt, paging_load]
  rfl

include truthful sized in
/-- A second load follows exactly when the page wanted is past the end of some results. -/
theorem reloads_iff_overshoots (served : world.first.engine = engine.respond) :
    session.Reloads world ↔ engine.Overshoots session.currentRequest := by
  unfold Reloads StableEngine.Overshoots
  rw [total_found truthful served, and_comm]
  apply and_congr_right
  intro full
  exact isPastEnd_load_iff truthful sized served full

include truthful sized in
/-- The second load is for the last page of the query. -/
theorem currentRequest_clamp_load (served : world.first.engine = engine.respond)
    (reloads : session.Reloads world) :
    (session.load world.first).clamp.currentRequest =
      { session.currentRequest with
        page := UInt64.ofNat (engine.pages session.currentRequest) } := by
  have full : 0 < engine.total session.expression.text := by
    rw [← total_found truthful served]
    exact reloads.2
  have pulled : (session.load world.first).clamp.paging =
      { (session.load world.first).paging with
        page := (session.load world.first).paging.lastPage } :=
    Paging.clamp_of_isPastEnd reloads.1
  unfold currentRequest
  rw [pulled, lastPage_load truthful sized served full, paging_load]
  exact congrArg (fun expression : Expression => Request.mk expression.text _ _)
    (session.expression_load world.first)

include truthful positive sized in
theorem agreesWith_of_not_reloads (served : world.first.engine = engine.respond)
    (reloadsNot : ¬session.Reloads world) : (session.refresh world).AgreesWith engine := by
  have sameExpression : (session.load world.first).clamp.expression = session.expression :=
    session.expression_load world.first
  have shown : (session.load world.first).clamp.shown = engine.answer session.currentRequest :=
    shown_load.trans (found_eq_answer truthful served)
  have loaded : 1 ≤ (session.load world.first).paging.page := by
    rw [paging_load]
    exact positive
  rw [refresh_of_not_reloads reloadsNot]
  constructor
  · intro full
    rw [sameExpression] at full
    have within : session.paging.page.toNat ≤ engine.pages session.currentRequest := by
      rw [reloads_iff_overshoots truthful sized served] at reloadsNot
      exact Nat.not_lt.mp fun beyond => reloadsNot ⟨full, beyond⟩
    have inside : (session.load world.first).paging.isPastEnd = false := by
      rw [← Bool.not_eq_true, isPastEnd_load_iff truthful sized served full]
      exact Nat.not_lt.mpr within
    rw [clamp_of_not_isPastEnd inside, shown_load, found_eq_answer truthful served,
      currentRequest_load, paging_load]
    exact ⟨rfl, positive, within⟩
  · intro empty
    rw [sameExpression] at empty
    have range := inRange_clamp loaded
    have total : (session.load world.first).clamp.paging.total = 0 := by
      rw [total_clamp, paging_load, ← empty]
      exact total_found truthful served
    refine ⟨((atRest_iff_inRange range.1 total).mpr range).1, ?_⟩
    rw [shown, engine.total_answer]
    exact empty

include truthful positive sized in
theorem agreesWith_of_reloads (first : world.first.engine = engine.respond)
    (second : world.second.engine = engine.respond) (reloads : session.Reloads world) :
    (session.refresh world).AgreesWith engine := by
  -- The second load finds the same total, so the page it asks for is not pulled back again.
  have pulled : (session.load world.first).clamp.Truthful engine.respond := truthful.load first
  have last := currentRequest_clamp_load truthful sized first reloads
  have overshoots := (reloads_iff_overshoots truthful sized first).mp reloads
  have page := one_le_page_refresh positive world
  rw [refresh_of_reloads reloads] at page ⊢
  constructor
  · intro _
    refine ⟨?_, page, ?_⟩
    · rw [shown_load, found_eq_answer pulled second, currentRequest_load]
    · have there : (session.load world.first).clamp.paging.page =
          UInt64.ofNat (engine.pages session.currentRequest) := congrArg Request.page last
      rw [currentRequest_load, last, paging_load]
      change (session.load world.first).clamp.paging.page.toNat ≤
        engine.pages session.currentRequest
      rw [there, ← toNat_pages_load truthful first, UInt64.ofNat_toNat]
  · intro empty
    have sameExpression : (session.load world.first).clamp.expression = session.expression :=
      session.expression_load world.first
    rw [expression_load, sameExpression] at empty
    exact absurd overshoots.1 (UInt64.not_lt.mpr (UInt64.le_of_eq empty))

include truthful positive sized in
theorem agreesWith_refresh (first : world.first.engine = engine.respond)
    (second : world.second.engine = engine.respond) :
    (session.refresh world).AgreesWith engine := by
  by_cases reloads : session.Reloads world
  · exact agreesWith_of_reloads truthful positive sized first second reloads
  · exact agreesWith_of_not_reloads truthful positive sized first reloads

include truthful in
theorem total_refresh (first : world.first.engine = engine.respond)
    (second : world.second.engine = engine.respond) :
    (session.refresh world).paging.total = engine.total session.expression.text := by
  by_cases reloads : session.Reloads world
  · have pulled : (session.load world.first).clamp.Truthful engine.respond := truthful.load first
    have sameExpression : (session.load world.first).clamp.expression = session.expression :=
      session.expression_load world.first
    rw [refresh_of_reloads reloads, paging_load, ← sameExpression]
    exact total_found pulled second
  · rw [refresh_of_not_reloads reloads, total_clamp, paging_load]
    exact total_found truthful first

theorem loadHandovers_sublist (session : Session) (visit : Visit) :
    ((session.loadHandovers visit).map currentRequest).Sublist [session.currentRequest] := by
  unfold loadHandovers
  split
  next => exact List.nil_sublist _
  next => exact List.Sublist.refl _

include truthful sized in
/-- A refresh sends only what it takes to show the page wanted. -/
theorem refreshHandovers_sublist (served : world.first.engine = engine.respond) :
    ((session.refreshHandovers world).map currentRequest).Sublist
      (engine.needed session.currentRequest) := by
  have wanted := session.loadHandovers_sublist world.first
  unfold refreshHandovers StableEngine.needed
  by_cases reloads : session.Reloads world
  · have last := (session.load world.first).clamp.loadHandovers_sublist world.second
    rw [currentRequest_clamp_load truthful sized served reloads] at last
    rw [if_pos reloads, if_pos ((reloads_iff_overshoots truthful sized served).mp reloads),
      List.map_append]
    exact wanted.append last
  · have within := mt (reloads_iff_overshoots truthful sized served).mpr reloads
    rw [if_neg reloads, if_neg within, List.append_nil]
    exact wanted

end Refresh

/-! ## Whole runs -/

theorem Counted.complete (counted : session.Counted engine) (now : Instant) (ticket : Request) :
    (session.complete now ticket (engine.respond ticket)).Counted engine := by
  cases current : session.isCurrent ticket with
  | true =>
      obtain rfl := isCurrent_eq_true_iff.mp current
      rw [complete_of_isCurrent current]
      exact .inr (engine.total_answer session.currentRequest)
  | false =>
      rw [complete_of_not_isCurrent current]
      exact counted

theorem Counted.after {step : Step} (counted : session.Counted engine)
    (truthful : session.Truthful engine.respond) (faithful : step.Faithful engine.respond) :
    (session.after step.world step.action).Counted engine := by
  cases preparation : session.prepared? step.world.now step.action with
  | some prepared =>
      have ready := truthful.prepared (leaves_of_prepared? preparation)
      rw [after_eq_refresh preparation]
      right
      rw [expression_refresh]
      exact total_refresh ready faithful.first faithful.second
  | none =>
      rw [after_eq_unloaded preparation]
      cases acting : step.action with
      | complete ticket outcome =>
          rw [faithful.outcome ticket outcome acting]
          exact counted.complete step.world.now ticket
      | _ => exact counted

theorem counted_run {steps : List Step} (counted : session.Counted engine)
    (truthful : session.Truthful engine.respond)
    (faithful : ∀ step ∈ steps, step.Faithful engine.respond) :
    (session.run steps).Counted engine ∧ (session.run steps).Truthful engine.respond := by
  induction steps generalizing session with
  | nil => exact ⟨counted, truthful⟩
  | cons step rest inductionHypothesis =>
      have now := faithful step List.mem_cons_self
      have later := fun other membership => faithful other (List.mem_cons_of_mem step membership)
      exact inductionHypothesis (counted.after truthful now) (truthful.after now) later

/-- A page that there is stays the page asked for. -/
theorem page_goTo (counted : session.Counted engine) (truthful : session.Truthful engine.respond)
    (sized : 0 < session.paging.size) (served : world.first.engine = engine.respond)
    {page : UInt64} (there : session.paging.hasPage page = true) :
    (session.after world (.goTo page)).paging.page = page := by
  obtain ⟨positive, within⟩ := Paging.hasPage_eq_true_iff.mp there
  -- Without results there are no pages, so the total that allowed the move is that of the engine.
  have full : session.paging.total ≠ 0 := by
    intro empty
    rw [Paging.pages_of_total_eq_zero empty] at within
    exact absurd (UInt64.le_trans positive within) (by decide)
  have total := counted.resolve_left full
  have preparation : session.prepared? world.now (.goTo page) =
      some { session with paging := { session.paging with page } } := by
    simp only [prepared?, Paging.goTo?, there, if_true, Option.map_some]
  have ready : Session.Truthful engine.respond
      { session with paging := { session.paging with page } } := truthful
  have pages : engine.pages ⟨session.expression.text, page, session.paging.size⟩ =
      session.paging.pages.toNat := by
    rw [Paging.toNat_pages, total]
    rfl
  have inside : (load { session with paging := { session.paging with page } }
      world.first).paging.isPastEnd = false := by
    rw [← Bool.not_eq_true, isPastEnd_load_iff ready sized served (UInt64.pos_iff_ne_zero.mpr
      (total ▸ full))]
    exact Nat.not_lt.mpr (pages ▸ UInt64.le_iff_toNat_le.mp within)
  rw [after_eq_refresh preparation, refresh_of_not_reloads fun reloads =>
    Bool.false_ne_true (inside.symm.trans reloads.1), clamp_of_not_isPastEnd inside, paging_load]
  rfl

/-- After every run over a stable engine, whatever the clock does and whatever the cache keeps:
every action that loads a page leaves screen and current request in agreement and sends only what it
takes, at most the request for the page wanted and one for the last page of its query; the other
actions send nothing; and a move to a page that is not refused ends on that page. -/
theorem agreesWith_after (engine : StableEngine) (registry : Registry) (settings : Settings)
    (steps : List Step) (faithful : ∀ step ∈ steps, step.Faithful engine.respond) (last : Step)
    (faithfulLast : last.Faithful engine.respond) :
    let session := (start registry settings).run steps
    let after := session.after last.world last.action
    after.paging.size = max settings.pageSize 1 ∧
      (∀ prepared, session.prepared? last.world.now last.action = some prepared →
        after.AgreesWith engine ∧
          ∃ requests, after.sent = session.sent ++ requests ∧
            requests.Sublist (engine.needed prepared.currentRequest) ∧ requests.length ≤ 2) ∧
      (session.prepared? last.world.now last.action = none → after.sent = session.sent) ∧
      ∀ page, last.action = .goTo page →
        (session.perform last.world last.action).1 = .verdict true → after.paging.page = page := by
  intro session after
  have coherent : session.Coherent settings := (Coherent.start registry settings).run steps
  have ended : after.Coherent settings := coherent.after last.world last.action
  have sized : ∀ other : Session, other.Coherent settings → 0 < other.paging.size := by
    intro other held
    rw [held.size]
    exact UInt64.lt_of_lt_of_le (by decide) (Paging.le_max_right settings.pageSize 1)
  obtain ⟨counted, truthful⟩ : session.Counted engine ∧ session.Truthful engine.respond :=
    counted_run (.inl rfl) (truthful_start registry settings) faithful
  have sent : after.sent = session.sent ++
      (session.handovers last.world last.action).map currentRequest :=
    session.sent_after last.world last.action
  refine ⟨ended.size, ?_, ?_, ?_⟩
  · intro prepared preparation
    have ready := truthful.prepared (leaves_of_prepared? preparation)
    have fit := coherent.prepared preparation
    have needed := refreshHandovers_sublist ready (sized prepared fit) faithfulLast.first
    refine ⟨?_, _, sent, ?_, ?_⟩
    · have agrees := agreesWith_refresh ready fit.page (sized prepared fit) faithfulLast.first
        faithfulLast.second
      rw [← after_eq_refresh preparation] at agrees
      exact agrees
    · unfold handovers
      rw [preparation]
      exact needed
    · unfold handovers
      rw [preparation]
      exact Nat.le_trans needed.length_le (engine.length_needed_le prepared.currentRequest)
  · intro unprepared
    rw [sent, handovers, unprepared]
    exact List.append_nil _
  · intro page acting answered
    rw [acting, perform_eq] at answered
    have moved := page_goTo counted truthful (sized session coherent) faithfulLast.first
      (Answer.verdict.inj answered)
    rw [← acting] at moved
    exact moved

/-- An engine with 25 results for everything and none for any other query, whose counts depend on
the page. -/
def pagewiseEngine : StableEngine where
  answer request :=
    ⟨[], if request.query = "*:*" then 25 else 0,
      ⟨[("pagina_l", [.ofValue "pagina" request.page])], List.nodup_singleton _⟩⟩
  total query := if query = "*:*" then 25 else 0
  total_answer _ := rfl

/-- A bookmark for the largest page of all, whose results are pulled back to the third page. -/
def farStep : Step :=
  ⟨.still .epoch pagewiseEngine.respond, .restore ⟨"", .empty, 0xFFFFFFFFFFFFFFFF⟩⟩

/-- A move to the second page at a time before the first search. -/
def earlierMove : Step :=
  ⟨.still ⟨-5000000000, by decide, by decide⟩ pagewiseEngine.respond, .goTo 2⟩

def pulledBack : Session :=
  (start .default .default).run [farStep]

theorem agreesWith_after_earlierMove :
    pulledBack.sent = [⟨"*:*", 0xFFFFFFFFFFFFFFFF, 10⟩, ⟨"*:*", 3, 10⟩] ∧
      farStep.Faithful pagewiseEngine.respond ∧ earlierMove.Faithful pagewiseEngine.respond ∧
      pulledBack.prepared? earlierMove.world.now earlierMove.action =
        some { pulledBack with paging := { pulledBack.paging with page := 2 } } ∧
      (pulledBack.after earlierMove.world earlierMove.action).AgreesWith pagewiseEngine ∧
      (pulledBack.after earlierMove.world earlierMove.action).paging.page = 2 := by
  have far : farStep.Faithful pagewiseEngine.respond := ⟨rfl, rfl, fun _ _ acting => nomatch acting⟩
  have move : earlierMove.Faithful pagewiseEngine.respond :=
    ⟨rfl, rfl, fun _ _ acting => nomatch acting⟩
  have faithful : ∀ step ∈ [farStep], step.Faithful pagewiseEngine.respond := by
    intro step membership
    obtain rfl := List.mem_singleton.mp membership
    exact far
  have preparation : pulledBack.prepared? earlierMove.world.now earlierMove.action =
      some { pulledBack with paging := { pulledBack.paging with page := 2 } } := by decide +kernel
  have answered : (pulledBack.perform earlierMove.world earlierMove.action).1 = .verdict true := by
    rw [perform_eq]
    exact congrArg Answer.verdict (by decide +kernel)
  have agrees := agreesWith_after pagewiseEngine .default .default [farStep] faithful earlierMove
    move
  have arrived := agrees.2.2.2 2 rfl answered
  exact ⟨by decide +kernel, far, move, preparation, (agrees.2.1 _ preparation).1, arrived⟩

end Session

end FacetedSearch
