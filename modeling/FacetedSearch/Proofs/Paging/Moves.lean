import FacetedSearch.Proofs.Paging
import Mathlib.Data.List.Induction

/-!
# Buttons and moves

A button compares the current page with an end of the result; a move asks whether the page that it
leads to exists.  Within the result these are the same question, except on the last page that a
word can count.  The page after that one is the page itself, so a move onto it is answered as if
there were another page, and goes nowhere.
-/

namespace FacetedSearch

/-- Something done with a position. -/
inductive PagingAction where
  | setTotal (total : UInt64)
  | goTo (page : UInt64)
  | next
  | previous
  | reset
  | restore (page : UInt64)
  | clamp
deriving DecidableEq

namespace Paging

variable {paging : Paging}

/-- The position after an action; a move that is refused changes nothing. -/
def after (paging : Paging) : PagingAction → Paging
  | .setTotal total => paging.setTotal total
  | .goTo page => (paging.goTo? page).getD paging
  | .next => (paging.goTo? paging.nextPage).getD paging
  | .previous => (paging.goTo? paging.previousPage).getD paging
  | .reset => paging.reset
  | .restore page => paging.restore page
  | .clamp => paging.clamp

/-- What an action answers, if anything: whether the page was there, or had to be pulled back. -/
def answer? (paging : Paging) : PagingAction → Option Bool
  | .goTo page => some (paging.goTo? page).isSome
  | .next => some (paging.goTo? paging.nextPage).isSome
  | .previous => some (paging.goTo? paging.previousPage).isSome
  | .clamp => some paging.isPastEnd
  | .setTotal _ | .reset | .restore _ => none

def run (paging : Paging) (actions : List PagingAction) : Paging :=
  actions.foldl after paging

/-- There is a first page, and a page holds something. -/
structure WellFormed (paging : Paging) : Prop where
  page : 1 ≤ paging.page
  size : 1 ≤ paging.size

/-- The position is on the last page that a word can count. -/
def IsAtTop (paging : Paging) : Prop :=
  paging.page.toNat = Saturating.top ∧ paging.total.toNat = Saturating.top ∧ paging.size = 1

/-! ## What every action keeps -/

@[simp]
theorem run_append_singleton (paging : Paging) (actions : List PagingAction)
    (action : PagingAction) :
    paging.run (actions ++ [action]) = (paging.run actions).after action :=
  List.foldl_concat ..

theorem wellFormed_start (size : UInt64) : (start size).WellFormed where
  page := UInt64.le_refl 1
  size := le_max_right size 1

theorem WellFormed.goTo (wellFormed : paging.WellFormed) (page : UInt64) :
    ((paging.goTo? page).getD paging).WellFormed := by
  cases found : paging.goTo? page with
  | none => exact wellFormed
  | some moved =>
      obtain ⟨there, rfl⟩ := goTo?_eq_some_iff.mp found
      exact ⟨(hasPage_eq_true_iff.mp there).1, wellFormed.size⟩

theorem WellFormed.clamp (wellFormed : paging.WellFormed) : paging.clamp.WellFormed := by
  unfold Paging.clamp
  split
  next => exact wellFormed
  next => exact ⟨paging.one_le_lastPage, wellFormed.size⟩

theorem WellFormed.after (wellFormed : paging.WellFormed) (action : PagingAction) :
    (paging.after action).WellFormed := by
  cases action with
  | setTotal total => exact ⟨wellFormed.page, wellFormed.size⟩
  | goTo page => exact wellFormed.goTo page
  | next => exact wellFormed.goTo paging.nextPage
  | previous => exact wellFormed.goTo paging.previousPage
  | reset => exact ⟨UInt64.le_refl 1, wellFormed.size⟩
  | restore page => exact ⟨one_le_page_restore paging page, wellFormed.size⟩
  | clamp => exact wellFormed.clamp

theorem wellFormed_run (size : UInt64) (actions : List PagingAction) :
    ((start size).run actions).WellFormed := by
  induction actions using List.reverseRecOn with
  | nil => exact wellFormed_start size
  | append_singleton actions action inductionHypothesis =>
      rw [run_append_singleton]
      exact inductionHypothesis.after action

/-! ## Moves -/

@[simp]
theorem isSome_goTo? (paging : Paging) (page : UInt64) :
    (paging.goTo? page).isSome = paging.hasPage page := by
  unfold goTo?
  cases paging.hasPage page <;> rfl

@[simp]
theorem getD_goTo? (paging : Paging) (page : UInt64) :
    (paging.goTo? page).getD paging =
      if paging.hasPage page then { paging with page } else paging := by
  unfold goTo?
  cases paging.hasPage page <;> rfl

@[simp]
theorem toNat_nextPage (paging : Paging) :
    paging.nextPage.toNat = min (paging.page.toNat + 1) Saturating.top := by
  unfold nextPage Saturating.succ
  simp

@[simp]
theorem toNat_previousPage (paging : Paging) :
    paging.previousPage.toNat = paging.page.toNat - 1 :=
  Saturating.toNat_pred paging.page

/-- So many pages there are only with one result on each. -/
theorem isAtTop_iff (wellFormed : paging.WellFormed) (inRange : paging.page ≤ paging.lastPage) :
    paging.IsAtTop ↔ paging.page.toNat = Saturating.top := by
  refine ⟨And.left, ?_⟩
  intro top
  have sized : 0 < paging.size.toNat := UInt64.le_iff_toNat_le.mp wellFormed.size
  have fits := Saturating.toNat_le_top paging.total
  rw [UInt64.le_iff_toNat_le, toNat_lastPage, top] at inRange
  have many : ¬paging.total.toNat ⌈/⌉ paging.size.toNat ≤ Saturating.top - 1 := by
    unfold Saturating.top at inRange ⊢
    omega
  rw [ceilDiv_le_iff_le_mul sized, Nat.not_le] at many
  have single : paging.size.toNat = 1 := by
    by_contra several
    have double : 2 * (Saturating.top - 1) ≤ paging.size.toNat * (Saturating.top - 1) :=
      Nat.mul_le_mul_right _ (by omega)
    unfold Saturating.top at double many fits
    omega
  rw [single, Nat.one_mul] at many
  refine ⟨top, ?_, UInt64.toNat_inj.mp single⟩
  omega

/-- The move forward finds a page when there is one behind the current page, or when the current
page is the last that can be counted. -/
theorem hasPage_nextPage_iff (wellFormed : paging.WellFormed)
    (inRange : paging.page ≤ paging.lastPage) :
    paging.hasPage paging.nextPage = true ↔
      paging.navigation.next = true ∨ paging.IsAtTop := by
  have first := UInt64.le_iff_toNat_le.mp wellFormed.page
  have fits := Saturating.toNat_le_top paging.page
  rw [isAtTop_iff wellFormed inRange, hasPage_eq_true_iff]
  rw [UInt64.le_iff_toNat_le, lastPage, toNat_max] at inRange
  simp only [navigation, decide_eq_true_eq, UInt64.le_iff_toNat_le, UInt64.lt_iff_toNat_lt,
    toNat_nextPage]
  change 1 ≤ paging.page.toNat at first
  change _ ≤ max _ 1 at inRange
  change 1 ≤ _ ∧ _ ↔ _
  unfold Saturating.top at fits ⊢
  omega

theorem hasPage_previousPage_iff (wellFormed : paging.WellFormed)
    (inRange : paging.page ≤ paging.lastPage) :
    paging.hasPage paging.previousPage = true ↔ paging.navigation.previous = true := by
  have first := UInt64.le_iff_toNat_le.mp wellFormed.page
  rw [hasPage_eq_true_iff]
  rw [UInt64.le_iff_toNat_le, lastPage, toNat_max] at inRange
  simp only [navigation, bne_iff_ne, ne_eq, ← UInt64.toNat_inj, UInt64.le_iff_toNat_le,
    toNat_previousPage]
  change 1 ≤ paging.page.toNat at first
  change _ ≤ max _ 1 at inRange
  change 1 ≤ _ ∧ _ ↔ ¬_ = 1
  omega

theorem after_of_refused {action : PagingAction} (refused : paging.answer? action = some false) :
    paging.after action = paging := by
  cases action with
  | goTo | next | previous =>
      simp only [answer?, Option.some.injEq, isSome_goTo?] at refused
      simp [after, refused]
  | clamp =>
      have within := isPastEnd_eq_false_iff.mp (Option.some.inj refused)
      exact if_pos within
  | setTotal | reset | restore => cases refused

theorem after_next_of_enabled (wellFormed : paging.WellFormed)
    (inRange : paging.page ≤ paging.lastPage) (enabled : paging.navigation.next = true) :
    ∃ page, paging.after .next = { paging with page } ∧ page.toNat = paging.page.toNat + 1 := by
  have found := (hasPage_nextPage_iff wellFormed inRange).mpr (.inl enabled)
  refine ⟨paging.nextPage, by simp [after, found], ?_⟩
  have before := UInt64.lt_iff_toNat_lt.mp (of_decide_eq_true enabled)
  have fits := Saturating.toNat_le_top paging.pages
  rw [toNat_nextPage]
  omega

theorem after_previous_of_enabled (wellFormed : paging.WellFormed)
    (inRange : paging.page ≤ paging.lastPage) (enabled : paging.navigation.previous = true) :
    ∃ page, paging.after .previous = { paging with page } ∧ page.toNat + 1 = paging.page.toNat := by
  have found := (hasPage_previousPage_iff wellFormed inRange).mpr enabled
  refine ⟨paging.previousPage, by simp [after, found], ?_⟩
  have first := UInt64.le_iff_toNat_le.mp wellFormed.page
  rw [toNat_previousPage]
  exact Nat.sub_add_cancel first

theorem nextPage_of_isAtTop (top : paging.IsAtTop) : paging.nextPage = paging.page := by
  apply UInt64.toNat_inj.mp
  rw [toNat_nextPage, top.1]
  exact Nat.min_eq_right (Nat.le_succ _)

theorem after_next_of_isAtTop (top : paging.IsAtTop) : paging.after .next = paging := by
  simp [after, nextPage_of_isAtTop top]

/-! ## Pulling back -/

theorem page_clamp_le_lastPage (paging : Paging) : paging.clamp.page ≤ paging.clamp.lastPage := by
  unfold clamp
  split
  next within => exact within
  next => exact UInt64.le_refl _

theorem isPastEnd_iff_page_clamp_ne (paging : Paging) :
    paging.isPastEnd = true ↔ paging.clamp.page ≠ paging.page := by
  rw [isPastEnd_eq_true_iff]
  unfold clamp
  split
  next within => simpa using within
  next beyond =>
    have past := UInt64.not_le.mp beyond
    exact iff_of_true past (UInt64.ne_of_lt past)

/-- Whatever was done before, there is a first page and a page holds something, and what is refused
changes nothing.  Within the result, the move back is answered exactly as its button is enabled, and
so is the move forward, except on the last page that can be counted, which it does not leave; an
enabled button leads one page on or back.  Pulling back leaves a page of the result, tells whether
it moved, and does nothing the second time. -/
theorem moves_follow_buttons (size : UInt64) (actions : List PagingAction) :
    let paging := (start size).run actions
    (1 ≤ paging.page ∧ 1 ≤ paging.size) ∧
    (∀ action, paging.answer? action = some false → paging.after action = paging) ∧
    (paging.page ≤ paging.lastPage →
      (paging.answer? .next = some true ↔ paging.navigation.next = true ∨ paging.IsAtTop) ∧
      (paging.navigation.next = true →
        ∃ page, paging.after .next = { paging with page } ∧
          page.toNat = paging.page.toNat + 1) ∧
      (paging.IsAtTop → paging.navigation.next = false ∧ paging.after .next = paging) ∧
      (paging.answer? .previous = some true ↔ paging.navigation.previous = true) ∧
      (paging.navigation.previous = true →
        ∃ page, paging.after .previous = { paging with page } ∧
          page.toNat + 1 = paging.page.toNat)) ∧
    let pulled := paging.after .clamp
    pulled.page ≤ pulled.lastPage ∧
      (paging.answer? .clamp = some true ↔ pulled.page ≠ paging.page) ∧
      pulled.answer? .clamp = some false ∧ pulled.after .clamp = pulled := by
  intro paging
  have wellFormed : paging.WellFormed := wellFormed_run size actions
  have answered : ∀ page, some (paging.goTo? page).isSome = some true ↔
      paging.hasPage page = true := by simp
  refine ⟨⟨wellFormed.page, wellFormed.size⟩, fun _ => after_of_refused, ?_, ?_⟩
  · intro inRange
    refine ⟨?_, after_next_of_enabled wellFormed inRange, ?_, ?_,
      after_previous_of_enabled wellFormed inRange⟩
    · exact (answered _).trans (hasPage_nextPage_iff wellFormed inRange)
    · intro top
      refine ⟨?_, after_next_of_isAtTop top⟩
      apply decide_eq_false
      rw [UInt64.not_lt, UInt64.le_iff_toNat_le, top.1]
      exact Saturating.toNat_le_top paging.pages
    · exact (answered _).trans (hasPage_previousPage_iff wellFormed inRange)
  · intro pulled
    have within : pulled.page ≤ pulled.lastPage := paging.page_clamp_le_lastPage
    have settled : pulled.answer? .clamp = some false :=
      congrArg some (isPastEnd_eq_false_iff.mpr within)
    refine ⟨within, ?_, settled, after_of_refused settled⟩
    exact Option.some_inj.trans paging.isPastEnd_iff_page_clamp_ne

/-- The largest number of results, one on a page, seen from the last page but one. -/
def highActions : List PagingAction :=
  [.setTotal 0xFFFFFFFFFFFFFFFF, .restore 0xFFFFFFFFFFFFFFFF, .previous]

theorem moves_follow_buttons_highActions :
    let paging := (start 0).run highActions
    paging.page ≤ paging.lastPage ∧ paging.page = 0xFFFFFFFFFFFFFFFE ∧
      paging.answer? .next = some true ∧
      (∃ page, paging.after .next = { paging with page } ∧
        page.toNat = paging.page.toNat + 1) ∧
      ∃ page, paging.after .previous = { paging with page } ∧
        page.toNat + 1 = paging.page.toNat := by
  intro paging
  have inRange : paging.page ≤ paging.lastPage := by decide +kernel
  obtain ⟨-, -, moves, -⟩ := moves_follow_buttons 0 highActions
  obtain ⟨answered, forward, -, -, back⟩ := moves inRange
  have enabled : paging.navigation = ⟨true, true⟩ := by decide +kernel
  refine ⟨inRange, by decide +kernel, answered.mpr (.inl ?_), forward ?_, back ?_⟩
  · exact congrArg Navigation.next enabled
  · exact congrArg Navigation.next enabled
  · exact congrArg Navigation.previous enabled

/-- From the last page that can be counted, a move forward is answered although its button is off
and the page stays. -/
theorem next_answered_on_lastPage :
    let paging := (start 1).run [.setTotal 0xFFFFFFFFFFFFFFFF, .goTo 0xFFFFFFFFFFFFFFFF]
    paging.page ≤ paging.lastPage ∧ paging.navigation.next = false ∧
      paging.answer? .next = some true ∧ (paging.after .next).page = paging.page := by
  decide +kernel

end Paging

end FacetedSearch
