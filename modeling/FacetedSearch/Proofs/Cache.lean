import FacetedSearch.Cache

/-!
What the operations of a cache do to its entries.

An entry enters a cache only by being stored, and leaves it only when its key is stored again, when
it is found too old, or with all others.  So a property of single entries holds of all of them as
long as it holds of those stored.
-/

namespace FacetedSearch

open Calendar

namespace Cache

variable {Key Value : Type}

/-- All entries, too old or not, have a property. -/
def Every (property : CacheEntry Key Value → Prop) (cache : Cache Key Value) : Prop :=
  ∀ entry ∈ cache.entries, property entry

@[simp]
theorem isTooOld_eq_false_iff {maxAge : Duration} {storedAt now : Instant} :
    isTooOld maxAge storedAt now = false ↔ now.nanos - storedAt.nanos ≤ maxAge.nanos := by
  rw [isTooOld, decide_eq_false_iff_not, Int.not_lt]

variable [DecidableEq Key] {cache : Cache Key Value} {key : Key} {value : Value} {now : Instant}

theorem mem_of_entry?_eq_some {entry : CacheEntry Key Value}
    (found : cache.entry? key = some entry) : entry ∈ cache.entries ∧ entry.key = key := by
  unfold entry? at found
  have matched := List.find?_some found
  exact ⟨List.mem_of_find?_eq_some found, beq_iff_eq.mp matched⟩

/-- What is found was stored under the key, and not too long ago. -/
theorem exists_of_get?_eq_some (found : cache.get? key now = some value) :
    ∃ storedAt, ⟨key, value, storedAt⟩ ∈ cache.entries ∧
      now.nanos - storedAt.nanos ≤ cache.maxAge.nanos := by
  unfold get? at found
  cases entered : cache.entry? key with
  | none => simp [entered] at found
  | some entry =>
      obtain ⟨membership, rfl⟩ := mem_of_entry?_eq_some entered
      simp only [entered] at found
      split at found
      next tooOld => simp at found
      next young =>
        obtain rfl := Option.some.inj found
        exact ⟨entry.storedAt, membership,
          isTooOld_eq_false_iff.mp (Bool.eq_false_iff.mpr young)⟩

theorem entries_afterGet_subset : (cache.afterGet key now).entries ⊆ cache.entries := by
  unfold afterGet
  split
  next entry _ =>
    split
    next => exact fun _ kept => (List.mem_filter.mp kept).1
    next => exact List.Subset.refl _
  next => exact List.Subset.refl _

@[simp]
theorem maxAge_afterGet : (cache.afterGet key now).maxAge = cache.maxAge := by
  unfold afterGet
  split
  next => split <;> rfl
  next => rfl

theorem get?_of_entries_eq_nil (empty : cache.entries = []) (key : Key) (now : Instant) :
    cache.get? key now = none := by
  unfold get? entry?
  rw [empty]
  rfl

theorem entries_afterGet_of_eq_nil (empty : cache.entries = []) (key : Key) (now : Instant) :
    (cache.afterGet key now).entries = [] := by
  apply List.eq_nil_of_subset_nil
  rw [← empty]
  exact entries_afterGet_subset

/-- Stores the outcome of a request; a failure leaves nothing to store. -/
def accept (cache : Cache Key Value) (key : Key) (now : Instant) :
    Option Value → Cache Key Value
  | some value => cache.put key value now
  | none => cache

/-- Stores the outcome of a request that has no entry yet. -/
def acceptIfAbsent (cache : Cache Key Value) (key : Key) (now : Instant) :
    Option Value → Cache Key Value
  | some value => cache.putIfAbsent key value now
  | none => cache

/-- A cache without entries takes in what has come, and nothing else. -/
theorem entries_accept_of_eq_nil (empty : cache.entries = []) (key : Key) (now : Instant)
    (outcome : Option Value) :
    (cache.accept key now outcome).entries =
      outcome.toList.map fun value => ⟨key, value, now⟩ := by
  cases outcome with
  | none => exact empty
  | some value =>
      unfold accept put without
      rw [empty]
      rfl

@[simp]
theorem maxAge_put : (cache.put key value now).maxAge = cache.maxAge := rfl

@[simp]
theorem maxAge_putIfAbsent : (cache.putIfAbsent key value now).maxAge = cache.maxAge := by
  unfold putIfAbsent
  split <;> rfl

@[simp]
theorem maxAge_accept {outcome : Option Value} :
    (cache.accept key now outcome).maxAge = cache.maxAge := by
  cases outcome <;> rfl

@[simp]
theorem maxAge_acceptIfAbsent {outcome : Option Value} :
    (cache.acceptIfAbsent key now outcome).maxAge = cache.maxAge := by
  cases outcome with
  | none => rfl
  | some value => exact maxAge_putIfAbsent

theorem find?_without {other : Key} (different : other ≠ key)
    (entries : List (CacheEntry Key Value)) :
    ((without entries key).find? fun entry => entry.key == other) =
      entries.find? fun entry => entry.key == other := by
  unfold without
  rw [List.find?_filter]
  congr 1
  funext entry
  by_cases stored : entry.key = other
  · simp [stored, different]
  · simp [stored]

/-- The key just stored has its new entry, and every other key has the one it had. -/
theorem entry?_put (cache : Cache Key Value) (key other : Key) (value : Value) (now : Instant) :
    entry? (cache.put key value now) other =
      if other = key then some ⟨key, value, now⟩ else cache.entry? other := by
  unfold entry? put
  by_cases same : other = key
  · simp [same]
  · have different : (key == other) = false := beq_false_of_ne (Ne.symm same)
    rw [List.find?_cons_of_neg (by simp [different]), if_neg same, find?_without same]

/-- Storing for an absent key changes nothing when the key is present. -/
theorem entry?_putIfAbsent (cache : Cache Key Value) (key other : Key) (value : Value)
    (now : Instant) :
    entry? (cache.putIfAbsent key value now) other =
      if other = key ∧ cache.entry? key = none then some ⟨key, value, now⟩
      else cache.entry? other := by
  unfold putIfAbsent contains
  cases entered : cache.entry? key with
  | none => simp [entry?_put]
  | some entry => simp

theorem entry?_acceptIfAbsent (cache : Cache Key Value) (key other : Key) (now : Instant)
    (outcome : Option Value) :
    entry? (cache.acceptIfAbsent key now outcome) other =
      if other = key ∧ cache.entry? key = none then
        outcome.map fun value => ⟨key, value, now⟩
      else cache.entry? other := by
  cases outcome with
  | some value => exact entry?_putIfAbsent cache key other value now
  | none =>
      split
      next absent =>
        rw [absent.1]
        exact absent.2
      next => rfl

theorem counts_acceptIfAbsent (cache : Cache Key Value) (key : Key) (now : Instant)
    (outcome : Option Value) :
    cache.acceptIfAbsent key now outcome =
      { cache with entries := (cache.acceptIfAbsent key now outcome).entries } := by
  cases outcome with
  | none => rfl
  | some value =>
      simp only [acceptIfAbsent, putIfAbsent]
      split <;> rfl

/-- A look-up counts as a miss exactly when it finds nothing. -/
theorem misses_afterGet (cache : Cache Key Value) (key : Key) (now : Instant) :
    (cache.afterGet key now).misses =
      match cache.get? key now with
      | some _ => cache.misses
      | none => cache.misses + 1 := by
  unfold afterGet get?
  cases cache.entry? key with
  | none => rfl
  | some entry =>
      simp only
      split <;> rfl

@[simp]
theorem misses_accept (cache : Cache Key Value) (key : Key) (now : Instant)
    (outcome : Option Value) : (cache.accept key now outcome).misses = cache.misses := by
  cases outcome <;> rfl

/-- A key has an entry that was stored at a certain time or later, too old or not. -/
def HoldsSince (cache : Cache Key Value) (key : Key) (time : Instant) : Prop :=
  ∃ entry, cache.entry? key = some entry ∧ time.nanos ≤ entry.storedAt.nanos

namespace HoldsSince

variable {other : Key} {time : Instant}

theorem lt_of_get?_eq_none (holds : cache.HoldsSince key time)
    (missing : cache.get? key now = none) :
    cache.maxAge.nanos < now.nanos - time.nanos := by
  obtain ⟨entry, entered, since⟩ := holds
  have tooOld : isTooOld cache.maxAge entry.storedAt now = true := by
    cases age : isTooOld cache.maxAge entry.storedAt now with
    | true => rfl
    | false => simp [get?, entered, age] at missing
  have age := of_decide_eq_true tooOld
  omega

/-- A look-up takes an entry away only when it has been there for too long. -/
theorem afterGet (holds : cache.HoldsSince key time) (other : Key) (now : Instant) :
    (cache.afterGet other now).HoldsSince key time ∨
      cache.maxAge.nanos < now.nanos - time.nanos := by
  obtain ⟨entry, entered, since⟩ := holds
  unfold Cache.afterGet
  cases looked : cache.entry? other with
  | none => exact .inl ⟨entry, entered, since⟩
  | some found =>
      by_cases tooOld : isTooOld cache.maxAge found.storedAt now = true
      · simp only [if_pos tooOld]
        by_cases same : key = other
        · right
          rw [← same, entered] at looked
          obtain rfl := Option.some.inj looked
          have age := of_decide_eq_true tooOld
          omega
        · exact .inl ⟨entry, (find?_without same cache.entries).trans entered, since⟩
      · simp only [if_neg tooOld]
        exact .inl ⟨entry, entered, since⟩

theorem put (holds : cache.HoldsSince key time) (notBefore : time.nanos ≤ now.nanos)
    (other : Key) (value : Value) : HoldsSince (cache.put other value now) key time := by
  obtain ⟨entry, entered, since⟩ := holds
  unfold HoldsSince
  rw [entry?_put]
  split
  next => exact ⟨_, rfl, notBefore⟩
  next => exact ⟨entry, entered, since⟩

theorem accept (holds : cache.HoldsSince key time) (notBefore : time.nanos ≤ now.nanos)
    (other : Key) (outcome : Option Value) :
    (cache.accept other now outcome).HoldsSince key time := by
  cases outcome with
  | none => exact holds
  | some value => exact holds.put notBefore other value

theorem acceptIfAbsent (holds : cache.HoldsSince key time) (other : Key) (outcome : Option Value) :
    (cache.acceptIfAbsent other now outcome).HoldsSince key time := by
  obtain ⟨entry, entered, since⟩ := holds
  refine ⟨entry, ?_, since⟩
  rw [entry?_acceptIfAbsent, if_neg, entered]
  rintro ⟨rfl, absent⟩
  rw [entered] at absent
  cases absent

end HoldsSince

theorem holdsSince_put (cache : Cache Key Value) (key : Key) (value : Value) (now : Instant) :
    HoldsSince (cache.put key value now) key now :=
  ⟨⟨key, value, now⟩, (entry?_put cache key key value now).trans (if_pos rfl), Int.le_refl _⟩

namespace Every

variable {property : CacheEntry Key Value → Prop}

omit [DecidableEq Key] in
theorem mono {other : CacheEntry Key Value → Prop} (every : cache.Every property)
    (weaker : ∀ entry, property entry → other entry) : cache.Every other :=
  fun entry membership => weaker entry (every entry membership)

theorem afterGet (every : cache.Every property) : (cache.afterGet key now).Every property :=
  fun entry membership => every entry (entries_afterGet_subset membership)

theorem put (every : cache.Every property) (stored : property ⟨key, value, now⟩) :
    (cache.put key value now).Every property := by
  intro entry membership
  rcases List.mem_cons.mp membership with rfl | old
  · exact stored
  · exact every entry (List.mem_filter.mp old).1

theorem putIfAbsent (every : cache.Every property) (stored : property ⟨key, value, now⟩) :
    (cache.putIfAbsent key value now).Every property := by
  unfold Cache.putIfAbsent
  split
  next => exact every
  next => exact every.put stored

theorem accept {outcome : Option Value} (every : cache.Every property)
    (stored : ∀ value, outcome = some value → property ⟨key, value, now⟩) :
    (cache.accept key now outcome).Every property := by
  cases outcome with
  | none => exact every
  | some value => exact every.put (stored value rfl)

theorem acceptIfAbsent {outcome : Option Value} (every : cache.Every property)
    (stored : ∀ value, outcome = some value → property ⟨key, value, now⟩) :
    (cache.acceptIfAbsent key now outcome).Every property := by
  cases outcome with
  | none => exact every
  | some value => exact every.putIfAbsent (stored value rfl)

end Every

end Cache

end FacetedSearch
