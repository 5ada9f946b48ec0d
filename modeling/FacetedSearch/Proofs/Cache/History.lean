import FacetedSearch.Proofs.Cache
import FacetedSearch.Query
import Mathlib.Algebra.BigOperators.Group.List.Basic
import Mathlib.Algebra.GroupWithZero.Nat
import Mathlib.Data.List.Induction
import Mathlib.Data.List.Nodup

/-!
# A cache against its history

A look-up may drop an entry, so what a cache answers depends on everything that was done with it
before.  An entry is there exactly when the history holds the storing of it and nothing behind this
that takes it away: another value for its key, a clearing, or a time at which it was looked at and
found too old.  Time may go back in between.

Each count of a cache is settled by its history in the same way.
-/

namespace FacetedSearch

open Calendar

/-- Something done with a cache. -/
inductive CacheUse (Key Value : Type) where
  | put (key : Key) (value : Value) (now : Instant)
  | get (key : Key) (now : Instant)
  | evict (now : Instant)
  | clear

namespace CacheUse

variable {Key Value : Type} {maxAge : Duration} {uses : List (CacheUse Key Value)}

/-- Whether a use takes away what was stored under a key at a certain time. -/
def Ends (maxAge : Duration) (key : Key) (storedAt : Instant) : CacheUse Key Value → Prop
  | .put other _ _ => key = other
  | .get other now => key = other ∧ maxAge.nanos < now.nanos - storedAt.nanos
  | .evict now => maxAge.nanos < now.nanos - storedAt.nanos
  | .clear => True

def isGet : CacheUse Key Value → Bool
  | .get _ _ => true
  | _ => false

/-- Whether a use is about one key. -/
def names [DecidableEq Key] (key : Key) : CacheUse Key Value → Bool
  | .put other _ _ | .get other _ => other == key
  | .evict _ | .clear => false

/-- The history holds the storing of an entry, and nothing behind it takes the entry away. -/
def Leave (maxAge : Duration) (uses : List (CacheUse Key Value)) (entry : CacheEntry Key Value) :
    Prop :=
  ∃ before after, uses = before ++ .put entry.key entry.value entry.storedAt :: after ∧
    ∀ use ∈ after, ¬use.Ends maxAge entry.key entry.storedAt

@[simp]
theorem leave_append_singleton {use : CacheUse Key Value} {entry : CacheEntry Key Value} :
    Leave maxAge (uses ++ [use]) entry ↔
      .put entry.key entry.value entry.storedAt = use ∨
        Leave maxAge uses entry ∧ ¬use.Ends maxAge entry.key entry.storedAt := by
  constructor
  · rintro ⟨before, after, split, kept⟩
    rcases List.eq_nil_or_concat after with rfl | ⟨between, last, rfl⟩
    · left
      obtain ⟨-, same⟩ := List.append_inj' split rfl
      exact (List.singleton_inj.mp same).symm
    · right
      rw [List.concat_eq_append] at split kept
      rw [← List.cons_append, ← List.append_assoc] at split
      obtain ⟨earlier, same⟩ := List.append_inj' split rfl
      obtain rfl := List.singleton_inj.mp same
      refine ⟨⟨before, between, earlier, ?_⟩, kept use (by simp)⟩
      exact fun other membership => kept other (List.mem_append_left _ membership)
  · rintro (rfl | ⟨⟨before, after, rfl, kept⟩, spared⟩)
    · exact ⟨uses, [], rfl, by simp⟩
    · refine ⟨before, after ++ [use], by simp, ?_⟩
      intro other membership
      rcases List.mem_append.mp membership with old | last
      · exact kept other old
      · obtain rfl := List.mem_singleton.mp last
        exact spared

end CacheUse

namespace Cache

variable {Key Value : Type} [DecidableEq Key] {cache : Cache Key Value} {key : Key}

/-- The cache after a use. -/
def after (cache : Cache Key Value) : CacheUse Key Value → Cache Key Value
  | .put key value now => cache.put key value now
  | .get key now => cache.afterGet key now
  | .evict now => cache.evict now
  | .clear => cache.clear

/-- The cache after some uses, one after the other. -/
def run (cache : Cache Key Value) (uses : List (CacheUse Key Value)) : Cache Key Value :=
  uses.foldl after cache

@[simp]
theorem run_append_singleton (cache : Cache Key Value) (uses : List (CacheUse Key Value))
    (use : CacheUse Key Value) : cache.run (uses ++ [use]) = (cache.run uses).after use :=
  List.foldl_concat ..

@[simp]
theorem maxAge_after (use : CacheUse Key Value) : (cache.after use).maxAge = cache.maxAge := by
  cases use with
  | get key now => exact maxAge_afterGet
  | _ => rfl

@[simp]
theorem maxAge_run (cache : Cache Key Value) (uses : List (CacheUse Key Value)) :
    (cache.run uses).maxAge = cache.maxAge := by
  induction uses using List.reverseRecOn with
  | nil => rfl
  | append_singleton uses use inductionHypothesis => simp [inductionHypothesis]

/-! ## The entries -/

omit [DecidableEq Key] in
theorem nodup_map_key_filter {entries : List (CacheEntry Key Value)}
    (distinct : (entries.map (·.key)).Nodup) (kept : CacheEntry Key Value → Bool) :
    ((entries.filter kept).map (·.key)).Nodup :=
  distinct.sublist (List.filter_sublist.map _)

theorem nodup_keys_after (distinct : cache.keys.Nodup) (use : CacheUse Key Value) :
    (cache.after use).keys.Nodup := by
  cases use with
  | put key value now =>
      refine List.nodup_cons.mpr ⟨?_, nodup_map_key_filter distinct _⟩
      intro again
      obtain ⟨entry, old, same⟩ := List.mem_map.mp again
      exact of_decide_eq_true (List.mem_filter.mp old).2 same
  | get key now =>
      simp only [after, afterGet]
      split
      next =>
        split
        next => exact nodup_map_key_filter distinct _
        next => exact distinct
      next => exact distinct
  | evict now => exact nodup_map_key_filter distinct _
  | clear => exact List.nodup_nil

@[simp]
theorem nodup_keys_run (maxAge : Duration) (uses : List (CacheUse Key Value)) :
    (run (.empty maxAge) uses).keys.Nodup := by
  induction uses using List.reverseRecOn with
  | nil => exact List.nodup_nil
  | append_singleton uses use inductionHypothesis =>
      rw [run_append_singleton]
      exact nodup_keys_after inductionHypothesis use

/-- With different keys throughout, the entry found for a key is the one that is there. -/
theorem entry?_eq_some_iff (distinct : cache.keys.Nodup) {entry : CacheEntry Key Value} :
    cache.entry? key = some entry ↔ entry ∈ cache.entries ∧ entry.key = key := by
  constructor
  · exact mem_of_entry?_eq_some
  · rintro ⟨membership, rfl⟩
    cases looked : cache.entry? entry.key with
    | none =>
        have absent := List.find?_eq_none.mp looked entry membership
        simp at absent
    | some found =>
        obtain ⟨there, same⟩ := mem_of_entry?_eq_some looked
        rw [List.inj_on_of_nodup_map distinct there membership same]

theorem mem_entries_afterGet (distinct : cache.keys.Nodup) (key : Key) (now : Instant)
    (entry : CacheEntry Key Value) :
    entry ∈ (cache.afterGet key now).entries ↔
      entry ∈ cache.entries ∧
        ¬(entry.key = key ∧ isTooOld cache.maxAge entry.storedAt now = true) := by
  have found : ∀ other, cache.entry? key = some other → entry ∈ cache.entries →
      entry.key = key → entry = other := by
    intro other looked membership same
    have again := (entry?_eq_some_iff distinct).mpr ⟨membership, same⟩
    exact Option.some.inj (again.symm.trans looked)
  unfold afterGet
  cases looked : cache.entry? key with
  | none =>
      refine (and_iff_left_of_imp ?_).symm
      rintro membership ⟨same, -⟩
      have absent := List.find?_eq_none.mp looked entry membership
      simp [same] at absent
  | some other =>
      by_cases tooOld : isTooOld cache.maxAge other.storedAt now = true
      · simp only [if_pos tooOld, without, List.mem_filter, decide_eq_true_eq]
        refine and_congr_right fun membership => ?_
        constructor
        · rintro different ⟨same, -⟩
          exact different same
        · intro spared same
          obtain rfl := found other looked membership same
          exact spared ⟨same, tooOld⟩
      · simp only [if_neg tooOld]
        refine (and_iff_left_of_imp ?_).symm
        rintro membership ⟨same, old⟩
        obtain rfl := found other looked membership same
        exact tooOld old

/-- What is there after a use was just stored, or was there and is not taken away. -/
theorem mem_entries_after (distinct : cache.keys.Nodup) (use : CacheUse Key Value)
    (entry : CacheEntry Key Value) :
    entry ∈ (cache.after use).entries ↔
      .put entry.key entry.value entry.storedAt = use ∨
        entry ∈ cache.entries ∧ ¬use.Ends cache.maxAge entry.key entry.storedAt := by
  cases use with
  | put key value now =>
      obtain ⟨name, stored, storedAt⟩ := entry
      simp [after, put, without, CacheUse.Ends]
  | get key now =>
      have kept := mem_entries_afterGet distinct key now entry
      simpa [after, CacheUse.Ends, isTooOld] using kept
  | evict now => simp [after, evict, CacheUse.Ends, isTooOld]
  | clear => simp [after, clear, CacheUse.Ends]

@[simp]
theorem mem_entries_run (maxAge : Duration) (uses : List (CacheUse Key Value))
    (entry : CacheEntry Key Value) :
    entry ∈ (run (.empty maxAge) uses).entries ↔ CacheUse.Leave maxAge uses entry := by
  induction uses using List.reverseRecOn with
  | nil => simp [run, empty, CacheUse.Leave]
  | append_singleton uses use inductionHypothesis =>
      rw [run_append_singleton, mem_entries_after (nodup_keys_run maxAge uses),
        inductionHypothesis, CacheUse.leave_append_singleton, maxAge_run]
      rfl

/-- What a key is answered with was stored under it last, and not too long ago. -/
theorem get?_run_eq_some_iff (maxAge : Duration) (uses : List (CacheUse Key Value)) (key : Key)
    (now : Instant) (value : Value) :
    (run (.empty maxAge) uses).get? key now = some value ↔
      ∃ before storedAt after, uses = before ++ .put key value storedAt :: after ∧
        (∀ use ∈ after, ¬use.Ends maxAge key storedAt) ∧
        now.nanos - storedAt.nanos ≤ maxAge.nanos := by
  have age := maxAge_run (.empty maxAge) uses
  constructor
  · intro found
    obtain ⟨storedAt, membership, young⟩ := exists_of_get?_eq_some found
    obtain ⟨before, after, split, kept⟩ := (mem_entries_run maxAge uses _).mp membership
    rw [age] at young
    exact ⟨before, storedAt, after, split, kept, young⟩
  · rintro ⟨before, storedAt, after, split, kept, young⟩
    have membership := (mem_entries_run maxAge uses ⟨key, value, storedAt⟩).mpr
      ⟨before, after, split, kept⟩
    have looked := (entry?_eq_some_iff (nodup_keys_run maxAge uses)).mpr ⟨membership, rfl⟩
    rw [get?, looked]
    exact if_neg (Bool.eq_false_iff.mp (isTooOld_eq_false_iff.mpr (by rwa [age])))

/-! ## Other keys -/

theorem entry?_congr {other : Cache Key Value} (distinct : cache.keys.Nodup)
    (otherDistinct : other.keys.Nodup)
    (same : ∀ entry, entry.key = key → (entry ∈ cache.entries ↔ entry ∈ other.entries)) :
    cache.entry? key = other.entry? key := by
  apply Option.ext
  intro entry
  rw [entry?_eq_some_iff distinct, entry?_eq_some_iff otherDistinct]
  exact and_congr_left (same entry)

theorem get?_congr {other : Cache Key Value} (sameAge : cache.maxAge = other.maxAge)
    (same : cache.entry? key = other.entry? key) (now : Instant) :
    cache.get? key now = other.get? key now := by
  rw [get?, get?, same, sameAge]

/-- What is done with another key leaves an entry alone. -/
theorem leave_filter_names {maxAge : Duration} {other : Key} {entry : CacheEntry Key Value}
    (different : entry.key ≠ other) (uses : List (CacheUse Key Value)) :
    CacheUse.Leave maxAge (uses.filter fun use => !use.names other) entry ↔
      CacheUse.Leave maxAge uses entry := by
  induction uses using List.reverseRecOn with
  | nil => rfl
  | append_singleton uses use inductionHypothesis =>
      rw [List.filter_append, CacheUse.leave_append_singleton]
      cases named : use.names other with
      | false =>
          rw [List.filter_cons_of_pos (by simp [named]), List.filter_nil,
            CacheUse.leave_append_singleton, inductionHypothesis]
      | true =>
          rw [List.filter_cons_of_neg (by simp [named]), List.filter_nil, List.append_nil,
            inductionHypothesis]
          cases use <;> simp_all [CacheUse.names, CacheUse.Ends]

theorem entry?_run_filter_names (maxAge : Duration) (uses : List (CacheUse Key Value))
    {other : Key} (different : key ≠ other) :
    entry? (run (.empty maxAge) (uses.filter fun use => !use.names other)) key =
      entry? (run (.empty maxAge) uses) key := by
  apply entry?_congr (nodup_keys_run maxAge _) (nodup_keys_run maxAge uses)
  rintro entry rfl
  rw [mem_entries_run, mem_entries_run, leave_filter_names different]

/-! ## Eviction -/

theorem isSome_get?_of_mem (distinct : cache.keys.Nodup) {entry : CacheEntry Key Value}
    (membership : entry ∈ cache.entries) (now : Instant) :
    (cache.get? entry.key now).isSome = !isTooOld cache.maxAge entry.storedAt now := by
  have looked := (entry?_eq_some_iff distinct).mpr ⟨membership, rfl⟩
  unfold get?
  cases tooOld : isTooOld cache.maxAge entry.storedAt now <;> simp [looked, tooOld]

/-- Just those keys are kept that a look-up would be answered for. -/
theorem keys_evict (distinct : cache.keys.Nodup) (now : Instant) :
    (cache.evict now).keys = cache.keys.filter fun key => (cache.get? key now).isSome := by
  simp only [keys, evict, List.filter_map]
  congr 1
  apply List.filter_congr
  intro entry membership
  exact (isSome_get?_of_mem distinct membership now).symm

theorem evicted_eq (distinct : cache.keys.Nodup) (now : Instant) :
    cache.evicted now = (cache.keys.filter fun key => key ∉ (cache.evict now).keys).length := by
  have all : cache.keys.length =
      (cache.keys.filter fun key => (cache.get? key now).isSome).length +
        (cache.keys.filter fun key => !(cache.get? key now).isSome).length :=
    List.length_eq_length_filter_add _
  have gone : ∀ key ∈ cache.keys, decide (key ∉ (cache.evict now).keys) =
      !(cache.get? key now).isSome := by
    intro key membership
    have kept : key ∈ (cache.evict now).keys ↔ (cache.get? key now).isSome = true := by
      rw [keys_evict distinct, List.mem_filter]
      exact and_iff_right membership
    simp only [kept, decide_not, Bool.decide_eq_true]
  have before : cache.entries.length = cache.keys.length := (List.length_map _).symm
  have after : (cache.evict now).entries.length = (cache.evict now).keys.length :=
    (List.length_map _).symm
  rw [List.filter_congr gone, evicted, before, after, keys_evict distinct]
  omega

/-! ## The counts -/

/-- Each use with the cache that it meets. -/
def encounters (cache : Cache Key Value) :
    List (CacheUse Key Value) → List (Cache Key Value × CacheUse Key Value)
  | [] => []
  | use :: rest => (cache, use) :: (cache.after use).encounters rest

/-- Whether a look-up is answered. -/
def answers (cache : Cache Key Value) : CacheUse Key Value → Bool
  | .get key now => (cache.get? key now).isSome
  | _ => false

/-- Whether a look-up comes upon an entry that is too old. -/
def findsTooOld (cache : Cache Key Value) : CacheUse Key Value → Bool
  | .get key now => (cache.entry? key).any fun entry => isTooOld cache.maxAge entry.storedAt now
  | _ => false

/-- How many entries an eviction drops. -/
def evictedBy (cache : Cache Key Value) : CacheUse Key Value → Nat
  | .evict now => cache.evicted now
  | _ => 0

@[simp]
theorem encounters_append_singleton (cache : Cache Key Value) (uses : List (CacheUse Key Value))
    (use : CacheUse Key Value) :
    cache.encounters (uses ++ [use]) = cache.encounters uses ++ [(cache.run uses, use)] := by
  induction uses generalizing cache with
  | nil => rfl
  | cons first rest inductionHypothesis =>
      simp only [List.cons_append, encounters, inductionHypothesis]
      rfl

theorem hits_afterGet (cache : Cache Key Value) (key : Key) (now : Instant) :
    (cache.afterGet key now).hits =
      match cache.get? key now with
      | some _ => cache.hits + 1
      | none => cache.hits := by
  unfold afterGet get?
  cases cache.entry? key with
  | none => rfl
  | some entry =>
      simp only
      split <;> rfl

theorem expired_afterGet (cache : Cache Key Value) (key : Key) (now : Instant) :
    (cache.afterGet key now).expired =
      cache.expired + if cache.findsTooOld (.get key now) then 1 else 0 := by
  rw [afterGet, findsTooOld]
  cases cache.entry? key with
  | none => rfl
  | some entry =>
      simp only [Option.any_some]
      split <;> rfl

theorem hits_after (cache : Cache Key Value) (use : CacheUse Key Value) :
    (cache.after use).hits = cache.hits + if cache.answers use then 1 else 0 := by
  cases use with
  | get key now =>
      rw [after, hits_afterGet, answers]
      cases cache.get? key now <;> rfl
  | _ => rfl

theorem hits_add_misses_after (cache : Cache Key Value) (use : CacheUse Key Value) :
    (cache.after use).hits + (cache.after use).misses =
      cache.hits + cache.misses + if use.isGet then 1 else 0 := by
  cases use with
  | get key now =>
      rw [after, hits_afterGet, misses_afterGet]
      cases cache.get? key now with
      | none => rfl
      | some value => exact Nat.add_right_comm ..
  | _ => rfl

theorem expired_after (cache : Cache Key Value) (use : CacheUse Key Value) :
    (cache.after use).expired =
      cache.expired + cache.evictedBy use + if cache.findsTooOld use then 1 else 0 := by
  cases use with
  | get key now => exact expired_afterGet cache key now
  | _ => rfl

theorem hits_run (cache : Cache Key Value) (uses : List (CacheUse Key Value)) :
    (cache.run uses).hits =
      cache.hits + (cache.encounters uses).countP fun met => met.1.answers met.2 := by
  induction uses using List.reverseRecOn with
  | nil => rfl
  | append_singleton uses use inductionHypothesis =>
      simp [hits_after, inductionHypothesis, List.countP_singleton, Nat.add_assoc]

theorem hits_add_misses_run (cache : Cache Key Value) (uses : List (CacheUse Key Value)) :
    (cache.run uses).hits + (cache.run uses).misses =
      cache.hits + cache.misses + uses.countP (·.isGet) := by
  induction uses using List.reverseRecOn with
  | nil => rfl
  | append_singleton uses use inductionHypothesis =>
      simp [hits_add_misses_after, inductionHypothesis, List.countP_singleton, Nat.add_assoc]

theorem expired_run (cache : Cache Key Value) (uses : List (CacheUse Key Value)) :
    (cache.run uses).expired =
      cache.expired + ((cache.encounters uses).map fun met => met.1.evictedBy met.2).sum +
        (cache.encounters uses).countP fun met => met.1.findsTooOld met.2 := by
  induction uses using List.reverseRecOn with
  | nil => rfl
  | append_singleton uses use inductionHypothesis =>
      simp only [run_append_singleton, expired_after, inductionHypothesis,
        encounters_append_singleton, List.map_append, List.sum_append, List.countP_append,
        List.countP_singleton, List.map_cons, List.map_nil, List.sum_singleton]
      omega

/-- The entries dropped for their age and those still there become one more at most: an eviction
only moves entries from the second to the first. -/
theorem expired_add_length_after_le (cache : Cache Key Value) (use : CacheUse Key Value) :
    (cache.after use).expired + (cache.after use).entries.length ≤
      cache.expired + cache.entries.length + 1 := by
  have others (key : Key) : (without cache.entries key).length ≤ cache.entries.length :=
    List.length_filter_le ..
  cases use with
  | put key value now =>
      have bound := others key
      simp only [after, put, List.length_cons]
      omega
  | get key now =>
      have bound := others key
      simp only [after, afterGet]
      split
      next =>
        split <;> dsimp only <;> omega
      next =>
        dsimp only
        omega
  | evict now =>
      have young : (cache.evict now).entries.length ≤ cache.entries.length :=
        List.length_filter_le ..
      simp only [after, evict] at young ⊢
      omega
  | clear =>
      simp only [after, clear, List.length_nil]
      omega

theorem expired_add_length_run_le (cache : Cache Key Value) (uses : List (CacheUse Key Value)) :
    (cache.run uses).expired + (cache.run uses).entries.length ≤
      cache.expired + cache.entries.length + uses.length := by
  induction uses using List.reverseRecOn with
  | nil => exact Nat.le_refl _
  | append_singleton uses use inductionHypothesis =>
      have step := expired_add_length_after_le (cache.run uses) use
      rw [run_append_singleton, List.length_append, List.length_singleton]
      omega

/-- What a cache does is settled by its history, in which time may go back.  A key is answered with
a value exactly when the history holds the storing of it, behind which the key was not stored again,
nothing was cleared, and at no look-up of the key and no eviction the value was too old, as it is
not now either.  Keys with another expression, page or page size have no part in this.  Evictions
drop just the keys that a look-up would not be answered for, and each count is the number of uses,
or of dropped entries, that it stands for.  No count exceeds the number of uses, so a word of 64
bits holds each of them for the first 2 ^ 64 uses. -/
theorem answered_iff_stored_and_young {Value : Type} (maxAge : Duration)
    (uses : List (CacheUse Request Value)) :
    let cache := run (.empty maxAge) uses
    (∀ key now value, cache.get? key now = some value ↔
      ∃ before storedAt after, uses = before ++ .put key value storedAt :: after ∧
        (∀ use ∈ after, ¬use.Ends maxAge key storedAt) ∧
        now.nanos - storedAt.nanos ≤ maxAge.nanos) ∧
    (∀ key other : Request,
      key.query ≠ other.query ∨ key.page ≠ other.page ∨ key.size ≠ other.size →
        let spared := run (.empty maxAge) (uses.filter fun use => !use.names other)
        cache.entry? key = spared.entry? key ∧
          ∀ now, cache.get? key now = spared.get? key now) ∧
    (cache.hits = (encounters (.empty maxAge) uses).countP fun met => met.1.answers met.2) ∧
    cache.hits + cache.misses = uses.countP (·.isGet) ∧
    (∀ now,
      (cache.evict now).keys = cache.keys.filter (fun key => (cache.get? key now).isSome) ∧
        cache.keys.Nodup ∧
        cache.evicted now =
          (cache.keys.filter fun key => key ∉ (cache.evict now).keys).length) ∧
    cache.expired =
      ((encounters (.empty maxAge) uses).map fun met => met.1.evictedBy met.2).sum +
        (encounters (.empty maxAge) uses).countP (fun met => met.1.findsTooOld met.2) ∧
    cache.hits + cache.misses ≤ uses.length ∧
    cache.expired + cache.entries.length ≤ uses.length := by
  intro cache
  have distinct := nodup_keys_run maxAge uses
  have looked : cache.hits + cache.misses = uses.countP (·.isGet) :=
    (hits_add_misses_run _ uses).trans (Nat.zero_add _)
  refine ⟨get?_run_eq_some_iff maxAge uses, ?_, ?_, looked, ?_, ?_, ?_, ?_⟩
  · intro key other different spared
    have apart : key ≠ other := by
      rintro rfl
      simp at different
    have same := (entry?_run_filter_names maxAge uses apart).symm
    refine ⟨same, get?_congr ?_ same⟩
    rw [maxAge_run, maxAge_run]
  · exact (hits_run _ uses).trans (Nat.zero_add _)
  · exact fun now => ⟨keys_evict distinct now, distinct, evicted_eq distinct now⟩
  · have counted := expired_run (.empty maxAge) uses
    rw [counted]
    exact congrArg (· + _) (Nat.zero_add _)
  · rw [looked]
    exact List.countP_le_length
  · have bound := expired_add_length_run_le (.empty maxAge) uses
    rwa [empty, List.length_nil, Nat.zero_add] at bound

def firstPage : Request :=
  ⟨"*:*", 1, 10⟩

def secondPage : Request :=
  ⟨"*:*", 2, 10⟩

/-- Uses of a cache of ten nanoseconds.  Its first entry is found too old at a look-up and is not
there for a later one at an earlier time; stored again, it is dropped by an eviction. -/
def backwardUses : List (CacheUse Request String) :=
  [.put firstPage "first" .epoch,
    .put secondPage "second" ⟨5, by decide, by decide⟩,
    .get firstPage ⟨11, by decide, by decide⟩, .get firstPage ⟨3, by decide, by decide⟩,
    .put firstPage "again" ⟨3, by decide, by decide⟩, .evict ⟨14, by decide, by decide⟩,
    .get secondPage ⟨15, by decide, by decide⟩]

theorem answered_iff_stored_and_young_backwardUses :
    let maxAge : Duration := ⟨10, by decide, by decide⟩
    let cache := run (.empty maxAge) backwardUses
    let spared := run (.empty maxAge) (backwardUses.filter fun use => !use.names firstPage)
    secondPage.page ≠ firstPage.page ∧ cache.entry? secondPage = spared.entry? secondPage ∧
      (cache.get? secondPage ⟨-7, by decide, by decide⟩ = some "second" ∧
        ∃ before storedAt after,
          backwardUses = before ++ .put secondPage "second" storedAt :: after ∧
          (∀ use ∈ after, ¬use.Ends maxAge secondPage storedAt) ∧
          -7 - storedAt.nanos ≤ maxAge.nanos) ∧
      cache.get? firstPage ⟨3, by decide, by decide⟩ = none ∧
      cache.hits = 1 ∧ cache.hits + cache.misses = 3 ∧ cache.expired = 2 ∧
      cache.expired + cache.entries.length ≤ 7 := by
  intro maxAge cache spared
  obtain ⟨answered, others, hits, looked, -, expired, -, bounded⟩ :=
    answered_iff_stored_and_young maxAge backwardUses
  have found : cache.get? secondPage ⟨-7, by decide, by decide⟩ = some "second" := by
    decide +kernel
  refine ⟨by decide, (others _ _ (.inr (.inl (by decide)))).1, ⟨found, ?_⟩, by decide +kernel,
    hits.trans (by decide +kernel), looked.trans (by decide +kernel),
    expired.trans (by decide +kernel), bounded⟩
  exact (answered _ _ _).mp found

end Cache

end FacetedSearch
