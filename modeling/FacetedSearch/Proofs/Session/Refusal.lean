import FacetedSearch.Proofs.Paging.Moves
import FacetedSearch.Proofs.Session.Aim
import FacetedSearch.Proofs.Session.Coherence
import Mathlib.Algebra.Order.Ring.Nat

/-!
# Refused actions, and filters that are removed

A move is refused when it leads out of the result, and the removal of a filter when there is none at
its position.  What is refused leaves the whole session as it was.  Only on the last page that a
word can count a move forward is not refused, as the page behind it is taken for the page itself,
which is then loaded again.  A removal takes one filter away, with its clause if it has one, and
shows the first page of what is left.
-/

namespace FacetedSearch

open Calendar

/-- The number of the page that a move leads to, where the numbers of pages do not end. -/
def Action.target? (paging : Paging) : Action → Option Int
  | .goTo page => some page.toNat
  | .next => some (paging.page.toNat + 1)
  | .previous => some (paging.page.toNat - 1)
  | _ => none

namespace Paging

variable {paging : Paging}

/-- There is a page with a number. -/
def Reaches (paging : Paging) (target : Int) : Prop :=
  1 ≤ target ∧ target ≤ (paging.total.toNat ⌈/⌉ paging.size.toNat : Nat)

instance (paging : Paging) (target : Int) : Decidable (paging.Reaches target) :=
  inferInstanceAs (Decidable (_ ∧ _))

theorem hasPage_iff_reaches {page : UInt64} :
    paging.hasPage page = true ↔ paging.Reaches page.toNat := by
  rw [hasPage_eq_true_iff, UInt64.le_iff_toNat_le, UInt64.le_iff_toNat_le, toNat_pages]
  change 1 ≤ page.toNat ∧ _ ↔ _
  unfold Reaches
  omega

theorem hasPage_previousPage_iff_reaches :
    paging.hasPage paging.previousPage = true ↔ paging.Reaches (paging.page.toNat - 1) := by
  rw [hasPage_iff_reaches, toNat_previousPage]
  unfold Reaches
  omega

/-- The move forward leads to the next page, but for the last page that can be counted. -/
theorem hasPage_nextPage_iff_reaches (wellFormed : paging.WellFormed) :
    paging.hasPage paging.nextPage = true ↔
      paging.Reaches (paging.page.toNat + 1) ∨ paging.IsAtTop := by
  have fits := Saturating.toNat_le_top paging.page
  have counted : paging.pages.toNat ≤ Saturating.top := Saturating.toNat_le_top paging.pages
  rw [toNat_pages] at counted
  rw [hasPage_iff_reaches, toNat_nextPage]
  unfold Reaches
  by_cases top : paging.page.toNat = Saturating.top
  · constructor
    · intro there
      right
      refine (isAtTop_iff wellFormed ?_).mpr top
      rw [UInt64.le_iff_toNat_le, toNat_lastPage]
      omega
    · rintro (there | atTop)
      · omega
      · have every : paging.total.toNat ⌈/⌉ paging.size.toNat = Saturating.top := by
          rw [atTop.2.1, atTop.2.2]
          exact ceilDiv_one _
        rw [every]
        unfold Saturating.top
        omega
  · have lower : ¬paging.IsAtTop := fun atTop => top atTop.1
    rw [or_iff_left lower, Nat.min_eq_left (by omega)]
    rfl

end Paging

@[simp]
theorem FilterSet.fragments_append (before after : List Filter) :
    fragments ⟨before ++ after⟩ = fragments ⟨before⟩ ++ fragments ⟨after⟩ :=
  List.filterMap_append

@[simp]
theorem FilterSet.fragments_singleton (filter : Filter) :
    fragments ⟨[filter]⟩ = filter.fragment?.toList := by
  unfold fragments
  cases clause : filter.fragment? <;> simp [clause]

namespace Session

variable {session : Session} {world : Surroundings}

/-! ## Moves -/

theorem goTo_of_not_hasPage {page : UInt64} (missing : ¬session.paging.hasPage page = true)
    (world : Surroundings) : session.goTo world page = (.verdict false, session) := by
  have refused : session.paging.goTo? page = none := if_neg missing
  rw [goTo_eq, refused, Bool.eq_false_iff.mpr missing]
  rfl

theorem hasPage_of_goTo {page : UInt64} {moved : Session}
    (answered : session.goTo world page = (.verdict false, moved)) :
    ¬session.paging.hasPage page = true := by
  intro there
  rw [goTo_eq, there] at answered
  cases answered

theorem goTo_refused_iff {page : UInt64} :
    session.goTo world page = (.verdict false, session) ↔ ¬session.paging.hasPage page = true :=
  ⟨hasPage_of_goTo, fun missing => goTo_of_not_hasPage missing world⟩

/-- A move is refused exactly when it leads out of the result, unless it leads out of what can be
counted. -/
theorem perform_refused_iff (wellFormed : session.paging.WellFormed) (world : Surroundings)
    {action : Action} {target : Int} (leads : action.target? session.paging = some target) :
    session.perform world action = (.verdict false, session) ↔
      ¬session.paging.Reaches target ∧ ¬(action = .next ∧ session.paging.IsAtTop) := by
  cases action with
  | goTo page =>
      obtain rfl := Option.some.inj leads
      have other : ¬(Action.goTo page = .next ∧ session.paging.IsAtTop) := nofun
      rw [and_iff_left other, ← Paging.hasPage_iff_reaches]
      exact goTo_refused_iff
  | next =>
      obtain rfl := Option.some.inj leads
      have top : Action.next = .next ∧ session.paging.IsAtTop ↔ session.paging.IsAtTop :=
        and_iff_right rfl
      rw [top, ← not_or, ← Paging.hasPage_nextPage_iff_reaches wellFormed]
      exact goTo_refused_iff
  | previous =>
      obtain rfl := Option.some.inj leads
      have other : ¬(Action.previous = .next ∧ session.paging.IsAtTop) := nofun
      rw [and_iff_left other, ← Paging.hasPage_previousPage_iff_reaches]
      exact goTo_refused_iff
  | _ => cases leads

/-- The last page that can be counted is loaded again. -/
theorem perform_next_of_isAtTop (wellFormed : session.paging.WellFormed)
    (top : session.paging.IsAtTop) (world : Surroundings) :
    session.perform world .next = (.verdict true, session.refresh world) := by
  have there := (Paging.hasPage_nextPage_iff_reaches wellFormed).mpr (.inr top)
  have moved : session.paging.goTo? session.paging.nextPage = some session.paging := by
    rw [Paging.goTo?_eq_some_iff]
    exact ⟨there, by rw [Paging.nextPage_of_isAtTop top]⟩
  change session.goTo world session.paging.nextPage = _
  rw [goTo_eq, there, moved]
  rfl

/-! ## Removals -/

theorem perform_removeFilter_of_length_le {position : Nat}
    (beyond : session.query.filters.filters.length ≤ position) (world : Surroundings) :
    session.perform world (.removeFilter position) = (.removed none, session) := by
  have absent : session.query.filters.at? position = none := List.getElem?_eq_none beyond
  rw [perform_eq]
  simp only [answer, prepared?, absent, Option.map_none]
  rfl

/-- The filter at a position is answered, and the first page of the query without it is shown. -/
theorem perform_removeFilter {before after : List Filter} {filter : Filter}
    (applied : session.query.filters.filters = before ++ filter :: after) (world : Surroundings) :
    ∃ left, session.perform world (.removeFilter before.length) = (.removed (some filter), left) ∧
      left.aim = session.aim.turnTo { session.query with filters := ⟨before ++ after⟩ } ∧
      left.paging.page = 1 := by
  have present : session.query.filters.at? before.length = some filter := by
    unfold FilterSet.at?
    rw [applied, List.getElem?_append_right (Nat.le_refl _), Nat.sub_self]
    rfl
  have others : session.query.filters.removeAt before.length = ⟨before ++ after⟩ := by
    unfold FilterSet.removeAt
    rw [applied, List.eraseIdx_append_of_length_le (Nat.le_refl _), Nat.sub_self]
    rfl
  have aim := session.aim_turnTo { session.query with filters := ⟨before ++ after⟩ }
  have first := session.page_turnTo { session.query with filters := ⟨before ++ after⟩ }
  rw [perform_eq]
  simp only [answer, prepared?, present, others, Option.map_some, refresh_turnTo]
  generalize session.turnTo _ = turned at aim first ⊢
  refine ⟨_, rfl, (turned.aim_load world.first).trans aim, ?_⟩
  rw [paging_load]
  exact first

theorem fragments_of_applied {before after : List Filter} {filter : Filter}
    (applied : session.query.filters.filters = before ++ filter :: after) :
    session.query.filters.fragments =
      FilterSet.fragments ⟨before⟩ ++ filter.fragment?.toList ++ FilterSet.fragments ⟨after⟩ := by
  rw [← FilterSet.fragments_singleton, ← FilterSet.fragments_append, ← FilterSet.fragments_append,
    List.append_assoc]
  exact congrArg (fun filters => FilterSet.fragments ⟨filters⟩) applied

/-- After whatever was done before, a move is refused exactly when its target lies outside of the
result, except for the move forward from the last page that can be counted, which loads that page
again.  A removal is refused when there is no filter at its position.  What is refused changes
nothing in the session and sends nothing.  A removal that is not refused answers the filter at its
position and takes away this filter and its clause, if it has one; the other filters keep their
order, free text, facets and form stay, and the first page is shown. -/
theorem refused_calls_change_nothing (registry : Registry) (settings : Settings) (steps : List Step)
    (world : Surroundings) :
    let session := (start registry settings).run steps
    let filters := session.query.filters.filters
    (∀ action target, action.target? session.paging = some target →
      (session.perform world action = (.verdict false, session) ↔
        ¬session.paging.Reaches target ∧ ¬(action = .next ∧ session.paging.IsAtTop))) ∧
    (session.paging.IsAtTop →
      session.perform world .next = (.verdict true, session.refresh world)) ∧
    (∀ position, filters.length ≤ position →
      session.perform world (.removeFilter position) = (.removed none, session)) ∧
    ∀ position, position < filters.length →
      let removal := session.perform world (.removeFilter position)
      ∃ before filter after, filters = before ++ filter :: after ∧ before.length = position ∧
        removal.1 = .removed (some filter) ∧
        removal.2.query = { session.query with filters := ⟨before ++ after⟩ } ∧
        session.query.filters.fragments =
          FilterSet.fragments ⟨before⟩ ++ filter.fragment?.toList ++ FilterSet.fragments ⟨after⟩ ∧
        removal.2.query.filters.fragments =
          FilterSet.fragments ⟨before⟩ ++ FilterSet.fragments ⟨after⟩ ∧
        removal.2.form = session.form ∧ removal.2.paging.page = 1 := by
  have coherent := (Coherent.start registry settings).run steps
  generalize (start registry settings).run steps = session at coherent ⊢
  intro session filters
  have wellFormed : session.paging.WellFormed :=
    ⟨coherent.page, coherent.size ▸ Paging.le_max_right _ 1⟩
  refine ⟨fun action target => perform_refused_iff wellFormed world,
    fun top => perform_next_of_isAtTop wellFormed top world,
    fun position beyond => perform_removeFilter_of_length_le beyond world, ?_⟩
  intro position within removal
  have applied : filters =
      filters.take position ++ filters[position] :: filters.drop (position + 1) := by
    rw [List.getElem_cons_drop, List.take_append_drop]
  have length : (filters.take position).length = position :=
    List.length_take_of_le (Nat.le_of_lt within)
  obtain ⟨left, removed, aim, first⟩ := perform_removeFilter applied world
  rw [length] at removed
  have after : removal.2 = left := congrArg Prod.snd removed
  have query : left.query = _ := congrArg Aim.query aim
  refine ⟨_, _, _, applied, length, congrArg Prod.fst removed, ?_, fragments_of_applied applied,
    ?_, ?_, ?_⟩
  · rw [after, query]
    rfl
  · rw [after, query]
    exact FilterSet.fragments_append _ _
  · rw [after]
    exact congrArg Aim.form aim
  · rw [after]
    exact first

/-- A run that ends on the last page of a result, with a filter that is only shown between two with
a clause. -/
def filteredRun : List Step :=
  ([.edit (.setText "Observações" "x" .equals), .edit (.setText "Tributo ACT" "IRPF" .equals),
    .edit (.setDates "Protocolo" "2024-01-01" "2024-02-01"), .applyForm, .goTo 3] :
    List Action).map fun action => ⟨uniform .epoch (some 25), action⟩

/-- A run that ends on the last page that can be counted. -/
def countedRun : List Step :=
  [⟨uniform .epoch (some 0xFFFFFFFFFFFFFFFF), .restore ⟨"", .empty, 0xFFFFFFFFFFFFFFFF⟩⟩]

def singleResults : Settings :=
  { Settings.default with pageSize := 1 }

theorem refused_calls_change_nothing_filteredRun :
    let session := (start .default .default).run filteredRun
    let counted := (start .default singleResults).run countedRun
    let world := uniform .epoch (some 25)
    (Action.next.target? session.paging = some 4 ∧
      session.perform world .next = (.verdict false, session)) ∧
    (counted.paging.IsAtTop ∧
      counted.perform world .next = (.verdict true, counted.refresh world)) ∧
    (session.query.filters.filters.length ≤ 3 ∧
      session.perform world (.removeFilter 3) = (.removed none, session)) ∧
    2 < session.query.filters.filters.length ∧
      (∃ before filter after, session.query.filters.filters = before ++ filter :: after ∧
        before.length = 2 ∧
        (session.perform world (.removeFilter 2)).1 = .removed (some filter)) ∧
      (session.perform world (.removeFilter 2)).2.query.filters.fragments =
        ["tributo_act_s:\"IRPF\""] := by
  intro session counted world
  obtain ⟨moves, -, beyond, removals⟩ :=
    refused_calls_change_nothing .default .default filteredRun world
  obtain ⟨-, top, -, -⟩ := refused_calls_change_nothing .default singleResults countedRun world
  have leads : Action.next.target? session.paging = some 4 := by decide +kernel
  have outside : ¬session.paging.Reaches 4 := by decide +kernel
  have inner : ¬(Action.next = .next ∧ session.paging.IsAtTop) := by
    rintro ⟨-, top, -⟩
    exact absurd top (by decide +kernel)
  have atTop : counted.paging.IsAtTop :=
    ⟨by decide +kernel, by decide +kernel, by decide +kernel⟩
  have absent : session.query.filters.filters.length ≤ 3 := by decide +kernel
  have present : 2 < session.query.filters.filters.length := by decide +kernel
  refine ⟨⟨leads, (moves _ _ leads).mpr ⟨outside, inner⟩⟩, ⟨atTop, top atTop⟩,
    ⟨absent, beyond 3 absent⟩, present, ?_, by decide +kernel⟩
  obtain ⟨before, filter, after, applied, length, answered, -⟩ := removals 2 present
  exact ⟨before, filter, after, applied, length, answered⟩

/-- The page behind the last one that can be counted is outside of the result.  The move to it is
answered as if it were there, and once the answer of the last page is too old, a request is sent. -/
theorem not_refused_countedRun :
    let session := (start .default singleResults).run countedRun
    let later := uniform ⟨400000000000, by decide, by decide⟩ (some 0xFFFFFFFFFFFFFFFF)
    Action.next.target? session.paging = some 0x10000000000000000 ∧
      ¬session.paging.Reaches 0x10000000000000000 ∧
      (session.perform later .next).1 = .verdict true ∧
      (session.perform later .next).2.sent =
        session.sent ++ [⟨"*:*", 0xFFFFFFFFFFFFFFFF, 1⟩] := by
  intro session later
  have there : session.paging.hasPage session.paging.nextPage = true := by decide +kernel
  refine ⟨by decide +kernel, by decide +kernel, ?_, by decide +kernel⟩
  rw [perform_eq]
  exact congrArg Answer.verdict there

end Session

end FacetedSearch
