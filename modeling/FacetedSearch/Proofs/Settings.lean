import FacetedSearch.Cache
import FacetedSearch.Proofs.Decimal
import FacetedSearch.Proofs.Paging
import FacetedSearch.Proofs.Text.Blank
import FacetedSearch.Settings
import Mathlib.Logic.Function.Basic

/-!
# Settings that can be used as they were read

Three ranges meet in the age of a kept answer: a word holds more seconds than a span of time can
have, and a span of time holds more nanoseconds than lie between any two instants.  A number of
seconds is tested when it is read, so that it makes a span later on, and the age of an answer, which
is a difference of instants, is always a span that can be compared with it.
-/

namespace FacetedSearch

open Calendar Decimal

/-- A text writes a number: up to blanks around them it is digits, with a plus sign in front or
without one. -/
def Writes (text : String) (n : Nat) : Prop :=
  ∃ ds, ds ≠ [] ∧ value ds = n ∧
    (Text.trim text.toList = chars ds ∨ Text.trim text.toList = '+' :: chars ds)

theorem chars_ne_cons {c : Char} (other : ofDigitChar? c = none) (ds : List Digit)
    (text : List Char) : chars ds ≠ c :: text := by
  cases ds with
  | nil => exact nofun
  | cons d ds => exact fun same => digitChar_ne other d (List.cons.inj same).1

theorem fitting_eq_some_iff {digits : List Char} {word : UInt64} :
    (match ofText? digits with
      | some n => if n ≤ Saturating.top then some (UInt64.ofNat n) else none
      | none => none) = some word ↔
      ∃ ds, ds ≠ [] ∧ digits = chars ds ∧ value ds = word.toNat := by
  rw [← ofText?_eq_some_iff]
  cases read : ofText? digits with
  | none => simp
  | some n =>
      have fits : word.toNat ≤ Saturating.top := Nat.le_of_lt_succ word.toNat_lt
      simp only [Option.some.injEq]
      constructor
      · intro same
        split at same
        next small =>
          rw [← Option.some.inj same, UInt64.toNat_ofNat_of_lt' (Nat.lt_succ_of_le small)]
        next => cases same
      · rintro rfl
        rw [if_pos fits, UInt64.ofNat_toNat]

/-- A word is read from the digits of its number, with a plus sign or without. -/
theorem readWord?_eq_some_iff {text : List Char} {word : UInt64} :
    readWord? text = some word ↔
      ∃ ds, ds ≠ [] ∧ value ds = word.toNat ∧ (text = chars ds ∨ text = '+' :: chars ds) := by
  unfold readWord?
  split
  next digits =>
    refine fitting_eq_some_iff.trans ⟨?_, ?_⟩
    · rintro ⟨ds, nonempty, rfl, same⟩
      exact ⟨ds, nonempty, same, .inr rfl⟩
    · rintro ⟨ds, nonempty, same, unsigned | signed⟩
      · exact absurd unsigned.symm (chars_ne_cons (by decide) ds digits)
      · exact ⟨ds, nonempty, (List.cons.inj signed).2, same⟩
  next unsigned =>
    refine fitting_eq_some_iff.trans ⟨?_, ?_⟩
    · rintro ⟨ds, nonempty, written, same⟩
      exact ⟨ds, nonempty, same, .inl written⟩
    · rintro ⟨ds, nonempty, same, written | signed⟩
      · exact ⟨ds, nonempty, written, same⟩
      · exact absurd signed (unsigned _)

theorem readCount?_eq_some_iff {text : String} {word : UInt64} :
    readCount? text = some word ↔ Writes text word.toNat :=
  readWord?_eq_some_iff

namespace Settings

variable {lookup : String → Option String} {variableName : String}

/-- The variable gives a number that a word can hold. -/
def Gives (lookup : String → Option String) (variableName : String) (n : Nat) : Prop :=
  ∃ text, lookup variableName = some text ∧ Writes text n ∧ n ≤ Saturating.top

/-- A setting follows a variable: it is what is made of the number there, as long as that number is
usable, and it has a value of its own otherwise. -/
structure Follows (lookup : String → Option String) (variableName : String) (usable : Nat → Prop)
    (used : Nat → Nat) (fallback setting : UInt64) : Prop where
  given : ∀ n, Gives lookup variableName n → usable n → setting.toNat = used n
  otherwise : (∀ n, Gives lookup variableName n → ¬usable n) → setting = fallback

theorem gives_iff {n : Nat} :
    Gives lookup variableName n ↔
      ∃ word : UInt64, (lookup variableName).bind readCount? = some word ∧ word.toNat = n := by
  constructor
  · rintro ⟨text, found, written, fits⟩
    have same : (UInt64.ofNat n).toNat = n :=
      UInt64.toNat_ofNat_of_lt' (Nat.lt_succ_of_le fits)
    refine ⟨UInt64.ofNat n, ?_, same⟩
    rw [found, Option.bind_some, readCount?_eq_some_iff, same]
    exact written
  · rintro ⟨word, read, rfl⟩
    obtain ⟨text, found, read⟩ := Option.bind_eq_some_iff.mp read
    exact ⟨text, found, readCount?_eq_some_iff.mp read, Nat.le_of_lt_succ word.toNat_lt⟩

/-- What is made of the number that is read follows the variable it is read from. -/
theorem follows_count {usable : Nat → Prop} {used : Nat → Nat} {fallback : UInt64}
    (make : UInt64 → UInt64)
    (made : ∀ word : UInt64, usable word.toNat → (make word).toNat = used word.toNat)
    (unusable : ∀ word : UInt64, ¬usable word.toNat → make word = fallback)
    (kept : make fallback = fallback) :
    Follows lookup variableName usable used fallback
      (make (count lookup variableName fallback)) := by
  cases read : (lookup variableName).bind readCount? with
  | none =>
      have missing : ∀ n, ¬Gives lookup variableName n := by
        intro n gives
        obtain ⟨word, found, -⟩ := gives_iff.mp gives
        cases read.symm.trans found
      rw [count, read, Option.getD_none, kept]
      exact ⟨fun n gives => absurd gives (missing n), fun _ => rfl⟩
  | some word =>
      have gives : Gives lookup variableName word.toNat := gives_iff.mpr ⟨word, read, rfl⟩
      rw [count, read, Option.getD_some]
      refine ⟨?_, fun never => unusable word (never _ gives)⟩
      intro n given fine
      obtain ⟨other, found, rfl⟩ := gives_iff.mp given
      obtain rfl := Option.some.inj (read.symm.trans found)
      exact made word fine

/-- Each numeric setting follows a variable of its own.  The size of a page is raised to one, and
the age of an answer is usable if it is no longer than a span of time can be. -/
structure IsReadFrom (settings : Settings) (lookup : String → Option String) : Prop where
  pageSize : Follows lookup "SEARCH_PAGE_SIZE" (fun _ => True) (max · 1) default.pageSize
    settings.pageSize
  maxAgeSeconds : Follows lookup "SEARCH_CACHE_TTL_SECS"
    (fun seconds => seconds * nanosPerSecond ≤ longestNanos) id default.maxAgeSeconds
    settings.maxAgeSeconds
  facetLimit : Follows lookup "SEARCH_FACET_LIMIT" (fun _ => True) id default.facetLimit
    settings.facetLimit
  facetMinCount : Follows lookup "SEARCH_FACET_MIN_COUNT" (fun _ => True) id default.facetMinCount
    settings.facetMinCount
  timeoutSeconds : Follows lookup "SEARCH_HTTP_TIMEOUT_SECS" (fun _ => True) id
    default.timeoutSeconds settings.timeoutSeconds

/-- Other settings have the same values, except where they come from a given variable. -/
structure AgreesWithout (variableName : String) (settings other : Settings) : Prop where
  baseUrl : variableName ≠ "SOLR_BASE_URL" → other.baseUrl = settings.baseUrl
  pageSize : variableName ≠ "SEARCH_PAGE_SIZE" → other.pageSize = settings.pageSize
  maxAgeSeconds : variableName ≠ "SEARCH_CACHE_TTL_SECS" →
    other.maxAgeSeconds = settings.maxAgeSeconds
  facetLimit : variableName ≠ "SEARCH_FACET_LIMIT" → other.facetLimit = settings.facetLimit
  facetMinCount : variableName ≠ "SEARCH_FACET_MIN_COUNT" →
    other.facetMinCount = settings.facetMinCount
  timeoutSeconds : variableName ≠ "SEARCH_HTTP_TIMEOUT_SECS" →
    other.timeoutSeconds = settings.timeoutSeconds

@[simp]
theorem isSome_ofSeconds?_iff (seconds : Nat) :
    (Duration.ofSeconds? seconds).isSome = true ↔ seconds * nanosPerSecond ≤ longestNanos := by
  unfold Duration.ofSeconds? Duration.ofNanos? longestNanos nanosPerSecond
  split <;> simp <;> omega

theorem isReadFrom_ofLookup (lookup : String → Option String) :
    (ofLookup lookup).IsReadFrom lookup where
  pageSize := follows_count (max · 1) (fun word _ => Paging.toNat_max word 1)
    (fun _ useless => absurd trivial useless) rfl
  maxAgeSeconds := by
    refine follows_count usableSeconds ?_ ?_ (ite_self _)
    · intro word fits
      rw [usableSeconds, if_pos ((isSome_ofSeconds?_iff _).mpr fits), id]
    · intro word long
      rw [usableSeconds, if_neg fun fits => long ((isSome_ofSeconds?_iff _).mp fits)]
      rfl
  facetLimit := follows_count id (fun _ _ => rfl) (fun _ useless => absurd trivial useless) rfl
  facetMinCount := follows_count id (fun _ _ => rfl) (fun _ useless => absurd trivial useless) rfl
  timeoutSeconds := follows_count id (fun _ _ => rfl) (fun _ useless => absurd trivial useless) rfl

theorem agreesWithout_update (lookup : String → Option String) (variableName : String)
    (text : Option String) :
    (ofLookup lookup).AgreesWithout variableName
      (ofLookup (Function.update lookup variableName text)) := by
  constructor <;> intro other <;>
    simp only [ofLookup, count, Function.update_of_ne (Ne.symm other)]

/-! ## The age of a kept answer -/

/-- The seconds that are read always make a span of time. -/
@[simp]
theorem ofSeconds?_maxAgeSeconds (lookup : String → Option String) :
    Duration.ofSeconds? (ofLookup lookup).maxAgeSeconds.toNat = some (ofLookup lookup).maxAge := by
  have usable : ∀ seconds : UInt64,
      (Duration.ofSeconds? (usableSeconds seconds).toNat).isSome = true := by
    intro seconds
    unfold usableSeconds
    split
    next fits => exact fits
    next => exact (isSome_ofSeconds?_iff _).mpr (by decide)
  obtain ⟨span, found⟩ := Option.isSome_iff_exists.mp
    (usable (count lookup "SEARCH_CACHE_TTL_SECS" default.maxAgeSeconds))
  unfold maxAge
  rw [ofLookup, found, Option.getD_some]

theorem nanos_of_ofNanos? {nanos : Int} {span : Duration}
    (found : Duration.ofNanos? nanos = some span) : span.nanos = nanos := by
  unfold Duration.ofNanos? at found
  split at found
  next => rw [← Option.some.inj found]
  next => cases found

/-- A time within the calendar, counted in so many parts to the second; a second may be inserted at
the end of the last day. -/
def IsTime (parts : Nat) (time : Int) : Prop :=
  firstNano * parts ≤ time * nanosPerSecond ∧
    time * nanosPerSecond < (endNano + nanosPerSecond) * parts

/-- However finely time is counted, two times are not further apart than a span of time can be. -/
theorem difference_fits {parts : Nat} {stored now : Int} (storedTime : IsTime parts stored)
    (nowTime : IsTime parts now) :
    -(longestNanos * parts) ≤ (now - stored) * nanosPerSecond ∧
      (now - stored) * nanosPerSecond ≤ longestNanos * parts := by
  have first : firstNano = -8334601228800000000000 := by decide
  have last : endNano = 8210266876800000000000 := by decide
  simp only [IsTime, first, last, nanosPerSecond] at storedTime nowTime
  unfold longestNanos nanosPerSecond
  omega

theorem exists_age (stored now : Instant) :
    ∃ age, Duration.ofNanos? (now.nanos - stored.nanos) = some age := by
  have asTime : ∀ instant : Instant, IsTime 1000000000 instant.nanos := by
    intro instant
    have notBefore := instant.notBefore
    have notAfter := instant.notAfter
    unfold IsTime nanosPerSecond
    omega
  have fits := difference_fits (asTime stored) (asTime now)
  refine ⟨_, dif_pos ?_⟩
  unfold nanosPerSecond at fits
  omega

/-! ## Settings -/

/-- Settings that are read from variables can be used: a page holds something, the seconds that an
answer is kept make a span of time, and the age of an answer is a span that is compared with it.
Each numeric setting is the number its variable gives, and no variable has to do with a setting that
is not its own. -/
theorem ofLookup_usable (lookup : String → Option String) :
    1 ≤ (ofLookup lookup).pageSize ∧
    (Duration.ofSeconds? (ofLookup lookup).maxAgeSeconds.toNat = some (ofLookup lookup).maxAge ∧
      (ofLookup lookup).maxAge.nanos = (ofLookup lookup).maxAgeSeconds.toNat * nanosPerSecond) ∧
    (∀ stored now : Instant, ∃ age,
      Duration.ofNanos? (now.nanos - stored.nanos) = some age ∧
        (Cache.isTooOld (ofLookup lookup).maxAge stored now = true ↔
          (ofLookup lookup).maxAge.nanos < age.nanos)) ∧
    (∀ (parts : Nat) (stored now : Int), IsTime parts stored → IsTime parts now →
      -(longestNanos * parts) ≤ (now - stored) * nanosPerSecond ∧
        (now - stored) * nanosPerSecond ≤ longestNanos * parts) ∧
    (ofLookup lookup).IsReadFrom lookup ∧
    ∀ (variableName : String) (text : Option String),
      (ofLookup lookup).AgreesWithout variableName
        (ofLookup (Function.update lookup variableName text)) := by
  have spans := ofSeconds?_maxAgeSeconds lookup
  refine ⟨Paging.le_max_right _ 1, ⟨spans, nanos_of_ofNanos? spans⟩, ?_, ?_,
    isReadFrom_ofLookup lookup, agreesWithout_update lookup⟩
  · intro stored now
    obtain ⟨age, found⟩ := exists_age stored now
    refine ⟨age, found, ?_⟩
    rw [nanos_of_ofNanos? found]
    exact decide_eq_true_iff
  · exact fun parts stored now => difference_fits

/-- Variables at the edges: no page size, the longest age, and one more than the largest word. -/
def edgeVariables : String → Option String
  | "SEARCH_PAGE_SIZE" => some "0"
  | "SEARCH_CACHE_TTL_SECS" => some " +09223372036854775\n"
  | "SEARCH_FACET_LIMIT" => some "18446744073709551616"
  | _ => none

theorem ofLookup_usable_edgeVariables :
    (ofLookup edgeVariables).pageSize.toNat = 1 ∧
    (ofLookup edgeVariables).maxAge.nanos = 9223372036854775000000000 ∧
    (ofLookup edgeVariables).facetLimit = default.facetLimit ∧
    (endNano - 1 - firstNano) * nanosPerSecond ≤ longestNanos * nanosPerSecond ∧
    (ofLookup (Function.update edgeVariables "SEARCH_PAGE_SIZE" none)).facetLimit =
      (ofLookup edgeVariables).facetLimit := by
  obtain ⟨-, ⟨-, nanos⟩, -, differences, reads, agrees⟩ := ofLookup_usable edgeVariables
  refine ⟨?_, ?_, ?_, ?_, ?_⟩
  · refine reads.pageSize.given 0 ⟨"0", rfl, ?_, by decide⟩ trivial
    exact ⟨[0], List.cons_ne_nil _ _, rfl, .inl (by decide)⟩
  · have seconds := reads.maxAgeSeconds.given 9223372036854775
      ⟨" +09223372036854775\n", rfl, ⟨0 :: digits 9223372036854775, List.cons_ne_nil _ _,
        value_digits 9223372036854775, .inr (by decide +kernel)⟩, by decide⟩ (by decide)
    rw [nanos, seconds]
    rfl
  · refine reads.facetLimit.otherwise fun n gives => ?_
    obtain ⟨word, read, -⟩ := gives_iff.mp gives
    have unread : (edgeVariables "SEARCH_FACET_LIMIT").bind readCount? = none := by decide +kernel
    cases unread.symm.trans read
  · have apart := differences 1000000000 firstNano (endNano - 1) ⟨by decide, by decide⟩
      ⟨by decide, by decide⟩
    exact apart.2
  · exact (agrees "SEARCH_PAGE_SIZE" none).facetLimit (by decide)

end Settings

end FacetedSearch
