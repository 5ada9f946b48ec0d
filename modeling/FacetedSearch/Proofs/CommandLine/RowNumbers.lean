import FacetedSearch.CommandLine.Report
import FacetedSearch.Proofs.Paging.Moves
import FacetedSearch.Proofs.Paging.Partition
import FacetedSearch.Proofs.Session.Composition
import FacetedSearch.Proofs.Session.PageRange

/-!
# The numbers of rows

The start of a page is a saturated product, but the number of a row is a plain sum, and it leaves
the range when a reply holds more documents than there are numbers from the start of its page on.
The page that is shown is always one that the first load had results for, or the first page, so its
start is below the largest word.  A reply that stays within its own total has numbers for all of its
rows.
-/

namespace FacetedSearch

open Calendar

/-! ## Positions within a page -/

/-- The cards of an answer are numbered from zero, as far as a word can count. -/
def Response.IsNumbered (response : Response) : Prop :=
  response.cards.map (·.index) = (List.range response.cards.length).map UInt64.ofNat

@[simp]
theorem Response.isNumbered_empty : Response.empty.IsNumbered :=
  rfl

@[simp]
theorem Card.length_ofStoredFrom (index : UInt64) (documents : List StoredDocument) :
    (ofStoredFrom index documents).length = documents.length := by
  induction documents generalizing index with
  | nil => rfl
  | cons document documents inductionHypothesis =>
      rw [ofStoredFrom, List.length_cons, inductionHypothesis, List.length_cons]

theorem Card.map_index_ofStoredFrom (first : Nat) (documents : List StoredDocument) :
    (ofStoredFrom (UInt64.ofNat first) documents).map (·.index) =
      (List.range' first documents.length).map UInt64.ofNat := by
  induction documents generalizing first with
  | nil => rfl
  | cons document documents inductionHypothesis =>
      have next : UInt64.ofNat first + 1 = UInt64.ofNat (first + 1) := UInt64.ofNat_add .. |>.symm
      rw [ofStoredFrom, List.map_cons, next, inductionHypothesis, List.length_cons,
        List.range'_succ, List.map_cons]
      rfl

theorem Engine.isNumbered_answer (reply : Reply) : (answer reply).IsNumbered := by
  unfold Response.IsNumbered answer
  rw [Card.length_ofStoredFrom, List.range_eq_range']
  exact Card.map_index_ofStoredFrom 0 reply.page.documents

/-- The cards that are numbered below a bound are those that come before it. -/
theorem Response.IsNumbered.fit_iff {response : Response} (numbered : response.IsNumbered)
    {start : Nat} (below : start < Saturating.top) :
    (∀ card ∈ response.cards, start + card.index.toNat + 1 ≤ Saturating.top) ↔
      response.cards.length ≤ Saturating.top - start := by
  have word : Saturating.top < UInt64.size := by decide
  constructor
  · intro fits
    by_contra long
    have listed : UInt64.ofNat (Saturating.top - start) ∈ response.cards.map (·.index) := by
      rw [numbered]
      exact List.mem_map_of_mem (List.mem_range.mpr (Nat.lt_of_not_le long))
    obtain ⟨card, shown, index⟩ := List.mem_map.mp listed
    have fit := fits card shown
    rw [index, UInt64.toNat_ofNat_of_lt' (by omega)] at fit
    omega
  · intro short card shown
    have listed : card.index ∈ response.cards.map (·.index) := List.mem_map_of_mem shown
    rw [numbered] at listed
    obtain ⟨position, inside, index⟩ := List.mem_map.mp listed
    have before := List.mem_range.mp inside
    have counted : (UInt64.ofNat position).toNat ≤ position := by
      rw [UInt64.toNat_ofNat']
      exact Nat.mod_le _ _
    rw [← index]
    omega

/-- What the engine answers during a visit is made from replies. -/
def Visit.IsAnswered (visit : Visit) : Prop :=
  ∀ request, ∀ response ∈ visit.engine request, ∃ reply, response = Engine.answer reply

/-- What comes over a link is made from replies, if it can be read. -/
theorem Visit.isAnswered_search (settings : Settings) (registry : Registry) (link : Link)
    (wantedAt arrivedAt : Instant) :
    IsAnswered ⟨wantedAt, fun request => (Engine.search settings registry link request).toOption,
      arrivedAt⟩ := by
  intro request response answered
  change (Engine.search settings registry link request).toOption = some response at answered
  unfold Engine.search Engine.receive at answered
  split at answered
  next message _ =>
    split at answered
    next => cases answered
    next =>
      split at answered
      next reply _ => exact ⟨reply, (Option.some.inj answered).symm⟩
      next => cases answered
  next => cases answered

/-! ## The start of the page shown -/

namespace Paging

variable {paging : Paging}

/-- A page that some result has, or the first page, starts below the largest word. -/
theorem offset_lt_top (sized : 1 ≤ paging.size) {total : UInt64}
    (inside : paging.page ≤ (paging.setTotal total).lastPage) :
    paging.offset.toNat < Saturating.top := by
  rw [toNat_offset]
  rcases Nat.lt_or_ge 1 paging.page.toNat with later | first
  · have bounded := UInt64.le_iff_toNat_le.mp inside
    rw [lastPage, toNat_max] at bounded
    have there : (paging.setTotal total).hasPage paging.page = true := by
      rw [hasPage_eq_true_iff, UInt64.le_iff_toNat_le, UInt64.le_iff_toNat_le]
      change 1 ≤ paging.page.toNat ∧ _
      change paging.page.toNat ≤ max _ 1 at bounded
      omega
    have sizedAlike : 1 ≤ (paging.setTotal total).size := sized
    have within := ((hasPage_iff_lt_total sizedAlike).mp there).2
    exact Nat.lt_of_le_of_lt (Nat.min_le_left _ _)
      (Nat.lt_of_lt_of_le within (Saturating.toNat_le_top total))
  · rw [Nat.sub_eq_zero_of_le first, Nat.zero_mul]
    decide

end Paging

namespace Session

variable {session : Session} {world : Surroundings}

theorem wellFormed_paging_refresh (wellFormed : session.paging.WellFormed) (world : Surroundings) :
    (session.refresh world).paging.WellFormed := by
  refine refresh_preserves (motive := fun session => session.paging.WellFormed) ?_ ?_ wellFormed
  · intro loading visit _ held
    rw [paging_load]
    exact ⟨held.page, held.size⟩
  · exact fun loading held => held.clamp

/-- The page that is left is one of those that the first load found. -/
theorem offset_refresh_lt_top (wellFormed : session.paging.WellFormed) (world : Surroundings) :
    (session.refresh world).paging.offset.toNat < Saturating.top := by
  have sized := (wellFormed_paging_refresh wellFormed world).size
  have clamped := (session.load world.first).paging.page_clamp_le_lastPage
  by_cases reloads : session.Reloads world
  · rw [refresh_of_reloads reloads, paging_load] at sized ⊢
    exact Paging.offset_lt_top sized clamped
  · rw [refresh_of_not_reloads reloads] at sized ⊢
    exact Paging.offset_lt_top sized clamped

/-- The cards on the screen and those that are kept are numbered from zero. -/
structure Numbered (session : Session) : Prop where
  shown : session.shown.IsNumbered
  entries : session.cache.Every fun entry => entry.value.IsNumbered

theorem numbered_start (registry : Registry) (settings : Settings) :
    (start registry settings).Numbered where
  shown := Response.isNumbered_empty
  entries := fun _ stored => nomatch stored

theorem Numbered.prepared {prepared : Session} (numbered : session.Numbered)
    (leaves : session.Leaves prepared) : prepared.Numbered where
  shown := leaves.shown ▸ numbered.shown
  entries := fun entry stored => numbered.entries entry (leaves.entries stored)

theorem Numbered.load {visit : Visit} (numbered : session.Numbered) (answered : visit.IsAnswered) :
    (session.load visit).Numbered := by
  have arrived : ∀ response, visit.engine session.currentRequest = some response →
      response.IsNumbered := by
    intro response received
    obtain ⟨reply, rfl⟩ := answered _ response received
    exact Engine.isNumbered_answer reply
  constructor
  · rw [shown_load, found]
    cases cached : session.cache.get? session.currentRequest visit.wantedAt with
    | some response =>
        obtain ⟨storedAt, stored, -⟩ := Cache.exists_of_get?_eq_some cached
        exact numbered.entries _ stored
    | none =>
        cases received : visit.engine session.currentRequest with
        | some response => exact arrived response received
        | none => exact Response.isNumbered_empty
  · rw [cache_load]
    exact every_cacheAfterLoad numbered.entries arrived

theorem Numbered.refresh (numbered : session.Numbered) (first : world.first.IsAnswered)
    (second : world.second.IsAnswered) : (session.refresh world).Numbered := by
  refine refresh_preserves (motive := Numbered) ?_ ?_ numbered
  · rintro loading visit (rfl | rfl) held
    · exact held.load first
    · exact held.load second
  · exact fun loading held => ⟨held.shown, held.entries⟩

end Session

/-! ## The rows that are listed -/

namespace CommandLine

/-- The number of a row is within the range of a word. -/
def RowFits (paging : Paging) (card : Card) : Prop :=
  paging.offset.toNat + card.index.toNat + 1 ≤ Saturating.top

instance (paging : Paging) (card : Card) : Decidable (RowFits paging card) :=
  inferInstanceAs (Decidable (_ ≤ _))

theorem toNat_rowNumber_iff (paging : Paging) (card : Card) :
    (rowNumber paging card).toNat = paging.offset.toNat + card.index.toNat + 1 ↔
      RowFits paging card := by
  unfold rowNumber RowFits Saturating.top
  rw [UInt64.toNat_add, UInt64.toNat_add, UInt64.toNat_one]
  omega

/-- The session of the command line, before its page is loaded. -/
theorem exists_prepared_session (options : Options) (registry : Registry) (settings : Settings)
    (world : Surroundings) (bookmark : Bookmark) :
    ∃ prepared : Session, (Session.start registry settings).Leaves prepared ∧
      options.session registry settings world bookmark = prepared.refresh world := by
  let filled : Session :=
    { Session.start registry settings with form := options.fill (.ofRegistry registry) }
  have leaves : (Session.start registry settings).Leaves (filled.refiltered world.now) :=
    { Session.Leaves.refl (Session.start registry settings) with }
  refine ⟨((filled.refiltered world.now).openBookmark bookmark).recompile,
    leaves.trans (Session.leaves_openBookmark _ bookmark), ?_⟩
  unfold Options.session
  rw [Session.restoreWithForm_eq]
  rfl

/-- The page that the command line shows starts below the largest word, and the numbers of its rows
are those that are printed, as long as there are no more rows than numbers left.  This is so when
the rows stay within the total. -/
theorem rows_fit_iff (options : Options) (registry : Registry) (settings : Settings)
    (world : Surroundings) (first : world.first.IsAnswered) (second : world.second.IsAnswered)
    (bookmark : Bookmark) :
    let session := options.session registry settings world bookmark
    let start := session.paging.offset.toNat
    start < Saturating.top ∧
    ((∀ card ∈ session.shown.cards, RowFits session.paging card) ↔
      session.shown.cards.length ≤ Saturating.top - start) ∧
    (∀ card ∈ session.shown.cards,
      (rowNumber session.paging card).toNat = start + card.index.toNat + 1 ↔
        RowFits session.paging card) ∧
    (session.shown.cards.length ≤ session.paging.total.toNat - start →
      ∀ card ∈ session.shown.cards, RowFits session.paging card) := by
  obtain ⟨prepared, leaves, same⟩ :=
    exists_prepared_session options registry settings world bookmark
  rw [same]
  intro session start
  have wellFormed : prepared.paging.WellFormed :=
    ⟨leaves.page (UInt64.le_refl 1), leaves.size ▸ Paging.le_max_right _ 1⟩
  have numbered := ((Session.numbered_start registry settings).prepared leaves).refresh first second
  have below : start < Saturating.top := Session.offset_refresh_lt_top wellFormed world
  have fits := numbered.shown.fit_iff below
  refine ⟨below, fits, fun card _ => toNat_rowNumber_iff session.paging card, ?_⟩
  intro within
  have total := Saturating.toNat_le_top session.paging.total
  exact fits.mpr (within.trans (Nat.sub_le_sub_right total start))

/-- The surroundings of a run whose link to the engine does not change. -/
def linked (settings : Settings) (link : Link) : Surroundings :=
  .still .epoch fun request => (Engine.search settings .default link request).toOption

/-- Pages of one result. -/
def singleRows : Settings :=
  .ofLookup fun variableName => if variableName = "SEARCH_PAGE_SIZE" then some "1" else none

/-- A link over which two documents come back for every page, out of as many as a word can count. -/
def crowdedLink : Link :=
  fun _ => some ⟨200,
    "\x7b\"response\":\x7b\"numFound\":18446744073709551615,\"docs\":[\x7b\x7d,\x7b\x7d]\x7d\x7d"⟩

/-- The options that ask for a page and nothing else. -/
def pageOnly (page : UInt64) : Options :=
  ⟨none, [], [], some page, none, false⟩

/-- A page asked for over this link. -/
def crowdedSession (page : UInt64) : Session :=
  (pageOnly page).session .default singleRows (linked singleRows crowdedLink) ⟨"", .empty, page⟩

/-- On the last page but one both documents have a number. -/
theorem rows_fit_iff_lastButOne :
    (linked singleRows crowdedLink).first.IsAnswered ∧
      (linked singleRows crowdedLink).second.IsAnswered ∧
      (crowdedSession 0xFFFFFFFFFFFFFFFE).shown.cards.length = 2 ∧
      ∀ card ∈ (crowdedSession 0xFFFFFFFFFFFFFFFE).shown.cards,
        RowFits (crowdedSession 0xFFFFFFFFFFFFFFFE).paging card := by
  have answered : (linked singleRows crowdedLink).first.IsAnswered :=
    Visit.isAnswered_search singleRows .default crowdedLink .epoch .epoch
  have fit := (rows_fit_iff (pageOnly 0xFFFFFFFFFFFFFFFE) .default singleRows
    (linked singleRows crowdedLink) answered answered
    ⟨"", .empty, 0xFFFFFFFFFFFFFFFE⟩).2.1.mpr (by decide +kernel)
  refine ⟨answered, answered, by decide +kernel, ?_⟩
  unfold crowdedSession
  exact fit

/-- On the last page the second document would have a number beyond the range, and is listed under
zero. -/
theorem row_number_wraps :
    read ["--page", "18446744073709551615"] =
        .run (pageOnly 0xFFFFFFFFFFFFFFFF) ∧
      (pageOnly 0xFFFFFFFFFFFFFFFF).bookmark =
        .ok ⟨"", .empty, 0xFFFFFFFFFFFFFFFF⟩ ∧
      (crowdedSession 0xFFFFFFFFFFFFFFFF).paging = ⟨0xFFFFFFFFFFFFFFFF, 1, 0xFFFFFFFFFFFFFFFF⟩ ∧
      (crowdedSession 0xFFFFFFFFFFFFFFFF).shown.cards.map
        (rowNumber (crowdedSession 0xFFFFFFFFFFFFFFFF).paging) = [0xFFFFFFFFFFFFFFFF, 0] ∧
      ¬∀ card ∈ (crowdedSession 0xFFFFFFFFFFFFFFFF).shown.cards,
        RowFits (crowdedSession 0xFFFFFFFFFFFFFFFF).paging card := by
  decide +kernel

end CommandLine

end FacetedSearch
