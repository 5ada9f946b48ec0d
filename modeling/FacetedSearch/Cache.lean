import FacetedSearch.Calendar.Instant

/-!
A cache whose entries grow too old.

An entry is too old when more time than the cache allows has passed since it was stored.  It is
dropped when it is asked for, or when all entries are looked through.  There is no limit on the
number of entries.  The cache counts the look-ups it could answer, those it could not, and the
entries it dropped for their age, none of which exceeds the number of uses of the cache.
-/

namespace FacetedSearch

open Calendar

/-- A stored value with the time at which it was stored. -/
structure CacheEntry (Key Value : Type) where
  key : Key
  value : Value
  storedAt : Instant
deriving DecidableEq

/-- Stored values, the age they may reach, and what has been counted. -/
structure Cache (Key Value : Type) where
  entries : List (CacheEntry Key Value)
  maxAge : Duration
  hits : Nat
  misses : Nat
  expired : Nat
deriving DecidableEq

namespace Cache

variable {Key Value : Type}

def empty (maxAge : Duration) : Cache Key Value :=
  ⟨[], maxAge, 0, 0, 0⟩

def isTooOld (maxAge : Duration) (storedAt now : Instant) : Bool :=
  decide (maxAge.nanos < now.nanos - storedAt.nanos)

/-- The keys stored, too old or not. -/
def keys (cache : Cache Key Value) : List Key :=
  cache.entries.map (·.key)

/-- Drops the entries that are too old.  Time may have gone back since they were stored. -/
def evict (cache : Cache Key Value) (now : Instant) : Cache Key Value :=
  let young := cache.entries.filter fun entry => !isTooOld cache.maxAge entry.storedAt now
  { cache with
    entries := young
    expired := cache.expired + (cache.entries.length - young.length) }

/-- How many entries are dropped for their age. -/
def evicted (cache : Cache Key Value) (now : Instant) : Nat :=
  cache.entries.length - (cache.evict now).entries.length

/-- Drops all entries and keeps the counts. -/
def clear (cache : Cache Key Value) : Cache Key Value :=
  { cache with entries := [] }

variable [DecidableEq Key]

/-- The entry of a key, too old or not. -/
def entry? (cache : Cache Key Value) (key : Key) : Option (CacheEntry Key Value) :=
  cache.entries.find? fun entry => entry.key == key

/-- Whether there is an entry for a key, too old or not. -/
def contains (cache : Cache Key Value) (key : Key) : Bool :=
  (cache.entry? key).isSome

/-- The entries of all other keys. -/
def without (entries : List (CacheEntry Key Value)) (key : Key) : List (CacheEntry Key Value) :=
  entries.filter fun entry => entry.key ≠ key

/-- The value stored under a key, unless it is too old. -/
def get? (cache : Cache Key Value) (key : Key) (now : Instant) : Option Value :=
  match cache.entry? key with
  | some entry => if isTooOld cache.maxAge entry.storedAt now then none else some entry.value
  | none => none

/-- The cache after a look-up: the look-up is counted, and an entry that is too old is dropped. -/
def afterGet (cache : Cache Key Value) (key : Key) (now : Instant) : Cache Key Value :=
  match cache.entry? key with
  | some entry =>
      if isTooOld cache.maxAge entry.storedAt now then
        { cache with
          entries := without cache.entries key
          expired := cache.expired + 1
          misses := cache.misses + 1 }
      else { cache with hits := cache.hits + 1 }
  | none => { cache with misses := cache.misses + 1 }

/-- Stores a value in place of whatever the key had. -/
def put (cache : Cache Key Value) (key : Key) (value : Value) (now : Instant) :
    Cache Key Value :=
  { cache with entries := ⟨key, value, now⟩ :: without cache.entries key }

def putIfAbsent (cache : Cache Key Value) (key : Key) (value : Value) (now : Instant) :
    Cache Key Value :=
  if cache.contains key then cache else cache.put key value now

end Cache

end FacetedSearch
