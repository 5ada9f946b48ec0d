import FacetedSearch.Calendar.Date

/-!
Spans of time and points in time, to the nanosecond.

A span may have either sign.  None is longer than the milliseconds that a signed word of 64 bits
counts, and the lowest of these is left out.

Points in time lie between the first and the last calendar day and are counted from the start of
1970.  Moving one may leave the range, and then there is no result.
-/

namespace FacetedSearch.Calendar

/-! ## Spans of time -/

def nanosPerSecond : Int :=
  1000000000

def longestNanos : Int :=
  0x7FFFFFFFFFFFFFFF * 1000000

structure Duration where
  nanos : Int
  notBelow : -longestNanos ≤ nanos
  notAbove : nanos ≤ longestNanos
deriving DecidableEq

namespace Duration

def ofNanos? (nanos : Int) : Option Duration :=
  if h : -longestNanos ≤ nanos ∧ nanos ≤ longestNanos then some ⟨nanos, h.1, h.2⟩ else none

def ofSeconds? (seconds : Nat) : Option Duration :=
  ofNanos? (seconds * nanosPerSecond)

/-- The whole seconds of a span that is not negative. -/
def seconds (duration : Duration) : Nat :=
  (duration.nanos / nanosPerSecond).toNat

end Duration

/-! ## Points in time -/

def nanosPerDay : Int :=
  86400 * nanosPerSecond

def firstNano : Int :=
  (daysBeforeYear firstYear - 719162) * nanosPerDay

def endNano : Int :=
  (daysBeforeYear (lastYear + 1) - 719162) * nanosPerDay

/-- A point in time, in nanoseconds since the start of 1 January 1970. -/
structure Instant where
  nanos : Int
  notBefore : firstNano ≤ nanos
  notAfter : nanos < endNano
deriving DecidableEq

namespace Instant

def ofNanos? (nanos : Int) : Option Instant :=
  if h : firstNano ≤ nanos ∧ nanos < endNano then some ⟨nanos, h.1, h.2⟩ else none

/-- The start of 1 January 1970. -/
def epoch : Instant :=
  ⟨0, by decide, by decide⟩

/-- The instant that is later by a span of time, or earlier for a negative span. -/
def advance? (instant : Instant) (span : Duration) : Option Instant :=
  ofNanos? (instant.nanos + span.nanos)

/-- The number of the day that holds an instant, counted from 1 January of year 1. -/
def dayNumber (instant : Instant) : Int :=
  instant.nanos / nanosPerDay + 719162

/-- The day of an instant lies within the calendar. -/
@[simp]
theorem ofDayNumber?_dayNumber_isSome (instant : Instant) :
    (Date.ofDayNumber? instant.dayNumber).isSome = true := by
  have notBefore := instant.notBefore
  have notAfter := instant.notAfter
  simp only [firstNano, endNano, nanosPerDay, nanosPerSecond] at notBefore notAfter
  apply Date.ofDayNumber?_isSome <;> simp only [dayNumber, nanosPerDay, nanosPerSecond] <;> omega

def date (instant : Instant) : Date :=
  (Date.ofDayNumber? instant.dayNumber).get instant.ofDayNumber?_dayNumber_isSome

end Instant

end FacetedSearch.Calendar
