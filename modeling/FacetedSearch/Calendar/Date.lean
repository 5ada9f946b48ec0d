import FacetedSearch.Decimal

/-!
Calendar days of the Gregorian calendar, extended to all years.

A `Date` is a day that exists.  `Date.dayNumber` counts the days since 1 January of year 1, and
`Date.ofDayNumber?` finds the day with a given number.  The years reach from -262143 to 262142.
-/

namespace FacetedSearch.Calendar

/-- Whether a year has a 29 February. -/
def isLeap (year : Int) : Bool :=
  year % 4 == 0 && (year % 100 != 0 || year % 400 == 0)

def monthLengths (year : Int) : List Nat :=
  [31, if isLeap year then 29 else 28, 31, 30, 31, 30, 31, 31, 30, 31, 30, 31]

/-- The number of days of a month, which is zero when there is no such month. -/
def monthLength (year : Int) (month : Nat) : Nat :=
  if month = 0 then 0 else (monthLengths year).getD (month - 1) 0

def firstYear : Int :=
  -262143

def lastYear : Int :=
  262142

/-- Whether a year, a month and a day name a day that exists. -/
def DayExists (year : Int) (month day : Nat) : Prop :=
  firstYear ≤ year ∧ year ≤ lastYear ∧ 1 ≤ day ∧ day ≤ monthLength year month

instance (year : Int) (month day : Nat) : Decidable (DayExists year month day) :=
  inferInstanceAs (Decidable (_ ∧ _ ∧ _ ∧ _))

structure Date where
  year : Int
  month : Nat
  day : Nat
  exists_day : DayExists year month day
deriving DecidableEq

/-- Days from 1 January of year 1 to 1 January of a year. -/
def daysBeforeYear (year : Int) : Int :=
  365 * (year - 1) + (year - 1) / 4 - (year - 1) / 100 + (year - 1) / 400

def totalDays : (lengths : List Nat) → Nat
  | [] => 0
  | length :: lengths => length + totalDays lengths

/-- Days from 1 January to the first day of a month. -/
def daysBeforeMonth (year : Int) (month : Nat) : Nat :=
  totalDays ((monthLengths year).take (month - 1))

/-- The year that holds the day with a given number.  A year has 365.2425 days on average, so the
quotient misses the year by at most one. -/
def yearOfDayNumber (number : Int) : Int :=
  let guess := number * 400 / 146097 + 1
  if number < daysBeforeYear guess then guess - 1
  else if daysBeforeYear (guess + 1) ≤ number then guess + 1
  else guess

/-- A year has 365 days, and one more when it has a 29 February. -/
theorem totalDays_monthLengths (year : Int) :
    totalDays (monthLengths year) = if isLeap year then 366 else 365 := by
  unfold monthLengths
  cases isLeap year <;> rfl

/-- The days of a year lie between its first day and the first day of the next year. -/
theorem daysBeforeYear_succ (year : Int) :
    daysBeforeYear (year + 1) = daysBeforeYear year + (totalDays (monthLengths year) : Nat) := by
  rw [totalDays_monthLengths]
  unfold daysBeforeYear isLeap
  by_cases fourth : year % 4 = 0 <;> by_cases century : year % 100 = 0 <;>
    by_cases era : year % 400 = 0 <;> simp [fourth, century, era] <;> omega

/-- A later year does not start earlier. -/
theorem daysBeforeYear_mono {earlier later : Int} (order : earlier ≤ later) :
    daysBeforeYear earlier ≤ daysBeforeYear later := by
  unfold daysBeforeYear
  omega

/-- The year found for a day number holds that day. -/
theorem yearOfDayNumber_bounds (number : Int) :
    daysBeforeYear (yearOfDayNumber number) ≤ number ∧
      number < daysBeforeYear (yearOfDayNumber number + 1) := by
  unfold yearOfDayNumber daysBeforeYear
  dsimp only
  split
  · omega
  · split <;> omega

/-- The month, counted on from `month`, and the day of the month for a day that comes `rest` days
after the first of `month`; the lengths are those of `month` and the months after it. -/
def monthAndDay : (month : Nat) → (lengths : List Nat) → (rest : Nat) → Nat × Nat
  | month, [], rest => (month, rest + 1)
  | month, length :: lengths, rest =>
      if rest < length then (month, rest + 1) else monthAndDay (month + 1) lengths (rest - length)

/-- A day that lies within the months listed is found in one of them. -/
theorem monthAndDay_bounds (month : Nat) {rest : Nat} {lengths : List Nat}
    (within : rest < totalDays lengths) :
    month ≤ (monthAndDay month lengths rest).1 ∧ 1 ≤ (monthAndDay month lengths rest).2 ∧
      (monthAndDay month lengths rest).2 ≤
        lengths.getD ((monthAndDay month lengths rest).1 - month) 0 := by
  induction lengths generalizing month rest with
  | nil => exact absurd within (Nat.not_lt_zero rest)
  | cons length lengths inductionHypothesis =>
      unfold monthAndDay
      split
      · simp; omega
      · have remains : rest - length < totalDays lengths := by
          simp only [totalDays] at within
          omega
        obtain ⟨after, positive, bounded⟩ := inductionHypothesis (month + 1) remains
        refine ⟨by omega, positive, ?_⟩
        rw [show (monthAndDay (month + 1) lengths (rest - length)).1 - month =
          (monthAndDay (month + 1) lengths (rest - length)).1 - (month + 1) + 1 by omega]
        simpa using bounded

namespace Date

def of? (year : Int) (month day : Nat) : Option Date :=
  if h : DayExists year month day then some ⟨year, month, day, h⟩ else none

/-- Days since 1 January of year 1. -/
def dayNumber (date : Date) : Int :=
  daysBeforeYear date.year + (daysBeforeMonth date.year date.month : Nat) + (date.day : Int) - 1

/-- The day with a given number, if its year is within range. -/
def ofDayNumber? (number : Int) : Option Date :=
  let year := yearOfDayNumber number
  let (month, day) := monthAndDay 1 (monthLengths year) (number - daysBeforeYear year).toNat
  of? year month day

/-- Every number between the first and the last day is that of a day. -/
theorem ofDayNumber?_isSome {number : Int} (notBefore : daysBeforeYear firstYear ≤ number)
    (notAfter : number < daysBeforeYear (lastYear + 1)) : (ofDayNumber? number).isSome = true := by
  obtain ⟨lower, upper⟩ := yearOfDayNumber_bounds number
  have step := daysBeforeYear_succ (yearOfDayNumber number)
  have fromFirst : firstYear ≤ yearOfDayNumber number := by
    by_cases early : yearOfDayNumber number + 1 ≤ firstYear
    · have := daysBeforeYear_mono early
      omega
    · omega
  have toLast : yearOfDayNumber number ≤ lastYear := by
    by_cases late : lastYear + 1 ≤ yearOfDayNumber number
    · have := daysBeforeYear_mono late
      omega
    · omega
  have inYear : (number - daysBeforeYear (yearOfDayNumber number)).toNat <
      totalDays (monthLengths (yearOfDayNumber number)) := by omega
  obtain ⟨month, positive, bounded⟩ := monthAndDay_bounds 1 inYear
  simp only [ofDayNumber?, of?]
  rw [dif_pos]
  · rfl
  · refine ⟨fromFirst, toLast, positive, ?_⟩
    rw [monthLength, if_neg (by omega)]
    exact bounded

def epoch : Date :=
  ⟨1970, 1, 1, by decide⟩

/-- The text of a year: four digits from 0 to 9999, and otherwise a sign and at least four. -/
def yearText (year : Int) : List Char :=
  if 0 ≤ year ∧ year ≤ 9999 then Decimal.padded 4 year.toNat
  else (if year < 0 then '-' else '+') :: Decimal.padded 4 year.natAbs

def isoText (date : Date) : List Char :=
  yearText date.year ++ '-' :: Decimal.padded 2 date.month ++ '-' :: Decimal.padded 2 date.day

def dayFirstText (date : Date) : List Char :=
  Decimal.padded 2 date.day ++ '/' :: Decimal.padded 2 date.month ++ '/' :: yearText date.year

end Date

end FacetedSearch.Calendar
