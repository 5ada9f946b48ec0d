import FacetedSearch.Calendar.Date

/-!
Timestamps with an offset from universal time.

A timestamp has a date of four, two and two digits, a `T`, `t` or blank, the time of day to the
second, a fraction that may be missing, and an offset: `Z`, `z`, or a sign with hours and minutes.
The second 60 counts as part of its minute.  Shown, a timestamp is the day and the minute in
universal time.
-/

namespace FacetedSearch.Calendar

/-- A day with the number of minutes since its start, in universal time. -/
structure Minute where
  day : Date
  minute : Nat

/-- The number of exactly `count` digits that a text starts with. -/
def readDigits? (count : Nat) (text : List Char) : Option (Nat × List Char) :=
  match Decimal.takeDigits count text with
  | (ds, rest) => if ds.length = count then some (Decimal.value ds, rest) else none

/-- Skips one of the characters listed. -/
def readOneOf? (allowed : List Char) : List Char → Option (List Char)
  | c :: rest => if allowed.contains c then some rest else none
  | [] => none

/-- Skips a point and the digits behind it, of which there has to be one. -/
def readFraction? : List Char → Option (List Char)
  | '.' :: text =>
      match Decimal.spanDigits text with
      | ([], _) => none
      | (_, rest) => some rest
  | text => some text

/-- Hours up to 23 and minutes up to 59 with a colon between them, in minutes. -/
def readHourMinute? (text : List Char) : Option (Nat × List Char) := do
  let (hour, rest) ← readDigits? 2 text
  let rest ← readOneOf? [':'] rest
  let (minute, rest) ← readDigits? 2 rest
  if hour ≤ 23 ∧ minute ≤ 59 then some (hour * 60 + minute, rest) else none

/-- The minutes by which local time is ahead of universal time. -/
def readOffset? : List Char → Option (Int × List Char)
  | 'Z' :: rest => some (0, rest)
  | 'z' :: rest => some (0, rest)
  | '+' :: text => (readHourMinute? text).map fun (minutes, rest) => ((minutes : Int), rest)
  | '-' :: text => (readHourMinute? text).map fun (minutes, rest) => (-(minutes : Int), rest)
  | '−' :: text => (readHourMinute? text).map fun (minutes, rest) => (-(minutes : Int), rest)
  | _ => none

/-- Minutes from the start of year 1 to the minute that a timestamp falls in, in universal time. -/
def readTimestamp? (text : List Char) : Option Int := do
  let (year, rest) ← readDigits? 4 text
  let rest ← readOneOf? ['-'] rest
  let (month, rest) ← readDigits? 2 rest
  let rest ← readOneOf? ['-'] rest
  let (day, rest) ← readDigits? 2 rest
  let date ← Date.of? year month day
  let rest ← readOneOf? ['T', 't', ' '] rest
  let (minute, rest) ← readHourMinute? rest
  let rest ← readOneOf? [':'] rest
  let (second, rest) ← readDigits? 2 rest
  let rest ← readFraction? rest
  let (offset, rest) ← readOffset? rest
  if second ≤ 60 ∧ rest.isEmpty then some (date.dayNumber * 1440 + minute - offset) else none

/-- The day and the minute of the day for a count of minutes since the start of year 1. -/
def Minute.ofCount? (minutes : Int) : Option Minute :=
  (Date.ofDayNumber? (minutes / 1440)).map fun day => ⟨day, (minutes % 1440).toNat⟩

def Minute.text (moment : Minute) : List Char :=
  moment.day.dayFirstText ++ ' ' :: Decimal.padded 2 (moment.minute / 60) ++
    ':' :: Decimal.padded 2 (moment.minute % 60)

/-- A timestamp is shown in universal time, day first; any other text is shown as it is. -/
def displayTimestamp (text : String) : String :=
  match (readTimestamp? text.toList).bind Minute.ofCount? with
  | some moment => String.ofList moment.text
  | none => text

end FacetedSearch.Calendar
