import FacetedSearch.Calendar.Timestamp
import FacetedSearch.Proofs.Calendar.DateText
import FacetedSearch.Proofs.Calendar.DayNumber

/-!
# How an instant may be written

A timestamp is a day, a time of day and an offset, in one of a few spellings.  Every such text is
shown as the day and the minute of its instant in universal time, and nothing else is read as one.
An offset may lead to the day before or to the day after, over the ends of months and years.
-/

namespace FacetedSearch.Calendar

open Decimal

variable {input rest : List Char}

/-! ## Digits and marks -/

theorem readDigits?_eq_some_iff {count number : Nat} :
    readDigits? count input = some (number, rest) ↔
      ∃ ds : List Digit, ds.length = count ∧ chars ds ++ rest = input ∧ value ds = number := by
  constructor
  · intro read
    have same := (takeDigits_spec count input).2
    unfold readDigits? at read
    dsimp only at read
    split at read
    next width =>
      obtain ⟨rfl, rfl⟩ := Prod.mk.inj (Option.some.inj read)
      exact ⟨_, width, same, rfl⟩
    next => cases read
  · rintro ⟨ds, rfl, rfl, rfl⟩
    have taken : takeDigits ds.length (chars ds ++ rest) = (ds, rest) :=
      takeDigits_append (Nat.le_refl _) fun shorter => absurd shorter (Nat.lt_irrefl _)
    simp [readDigits?, taken]

theorem readOneOf?_eq_some_iff {allowed : List Char} :
    readOneOf? allowed input = some rest ↔ ∃ c ∈ allowed, c :: rest = input := by
  cases input with
  | nil => simp [readOneOf?]
  | cons c input => simp [readOneOf?, eq_comm]

/-! ## Times of day -/

/-- Hours and minutes as they are written. -/
structure WrittenClock where
  hour : List Digit
  minute : List Digit

namespace WrittenClock

def text (clock : WrittenClock) : List Char :=
  chars clock.hour ++ ':' :: chars clock.minute

def minutes (clock : WrittenClock) : Nat :=
  value clock.hour * 60 + value clock.minute

/-- Two digits each, up to 23 and 59. -/
structure IsValid (clock : WrittenClock) : Prop where
  hourWidth : clock.hour.length = 2
  hour : value clock.hour ≤ 23
  minuteWidth : clock.minute.length = 2
  minute : value clock.minute ≤ 59

theorem IsValid.minutes_lt {clock : WrittenClock} (valid : clock.IsValid) :
    clock.minutes < 1440 := by
  have hour := valid.hour
  have minute := valid.minute
  unfold minutes
  omega

end WrittenClock

theorem readHourMinute?_eq_some_iff {minutes : Nat} :
    readHourMinute? input = some (minutes, rest) ↔
      ∃ clock : WrittenClock, clock.IsValid ∧ clock.text ++ rest = input ∧
        clock.minutes = minutes := by
  unfold readHourMinute?
  simp only [Option.bind_eq_bind, Option.bind_eq_some_iff, Prod.exists, readDigits?_eq_some_iff,
    readOneOf?_eq_some_iff, List.mem_singleton, exists_eq_left]
  constructor
  · rintro ⟨_, _, ⟨hour, hourWidth, rfl, rfl⟩, _, rfl, _, _, ⟨minute, minuteWidth, rfl, rfl⟩, last⟩
    split at last
    next bounds =>
      obtain ⟨rfl, rfl⟩ := Prod.mk.inj (Option.some.inj last)
      refine ⟨⟨hour, minute⟩, ⟨hourWidth, bounds.1, minuteWidth, bounds.2⟩, ?_, rfl⟩
      simp [WrittenClock.text]
    next => cases last
  · rintro ⟨clock, valid, rfl, rfl⟩
    refine ⟨_, _, ⟨clock.hour, valid.hourWidth, (List.append_assoc ..).symm, rfl⟩, _, rfl, _, _,
      ⟨clock.minute, valid.minuteWidth, rfl, rfl⟩, ?_⟩
    exact if_pos ⟨valid.hour, valid.minute⟩

/-! ## Offsets -/

/-- An offset as it is written. -/
inductive WrittenOffset where
  | universal (letter : Char)
  | signed (sign : Char) (clock : WrittenClock)

namespace WrittenOffset

def text : WrittenOffset → List Char
  | universal letter => [letter]
  | signed sign clock => sign :: clock.text

/-- The minutes by which local time is ahead of universal time. -/
def minutes : WrittenOffset → Int
  | universal _ => 0
  | signed sign clock => if sign = '+' then clock.minutes else -clock.minutes

/-- The letter of universal time, or a plus, a hyphen or a minus before hours and minutes. -/
def IsValid : WrittenOffset → Prop
  | universal letter => letter ∈ ['Z', 'z']
  | signed sign clock => sign ∈ ['+', '-', '−'] ∧ clock.IsValid

variable {offset : WrittenOffset}

theorem IsValid.minutes_bounds (valid : offset.IsValid) :
    -1440 < offset.minutes ∧ offset.minutes < 1440 := by
  cases offset with
  | universal letter => simp [minutes]
  | signed sign clock =>
      have bound := valid.2.minutes_lt
      unfold minutes
      dsimp only
      split <;> omega

end WrittenOffset

theorem readOffset?_append {offset : WrittenOffset} (valid : offset.IsValid) (rest : List Char) :
    readOffset? (offset.text ++ rest) = some (offset.minutes, rest) := by
  cases offset with
  | universal letter =>
      simp only [WrittenOffset.IsValid, List.mem_cons, List.not_mem_nil, or_false] at valid
      rcases valid with rfl | rfl <;> rfl
  | signed sign clock =>
      obtain ⟨signs, validClock⟩ := valid
      have read : readHourMinute? (clock.text ++ rest) = some (clock.minutes, rest) :=
        readHourMinute?_eq_some_iff.mpr ⟨clock, validClock, rfl, rfl⟩
      simp only [List.mem_cons, List.not_mem_nil, or_false] at signs
      rcases signs with rfl | rfl | rfl <;>
        simp [WrittenOffset.text, WrittenOffset.minutes, readOffset?, read]

theorem exists_of_readSigned {sign : Char} {minutes : Int} {signOf : Nat → Int}
    {place : Nat × List Char → Int × List Char}
    (places : ∀ number left, place (number, left) = (signOf number, left))
    (signs : sign ∈ ['+', '-', '−'])
    (signed : ∀ clock, (WrittenOffset.signed sign clock).minutes = signOf clock.minutes)
    (read : (readHourMinute? input).map place = some (minutes, rest)) :
    ∃ offset : WrittenOffset, offset.IsValid ∧ offset.text ++ rest = sign :: input ∧
      offset.minutes = minutes := by
  obtain ⟨⟨number, left⟩, readClock, same⟩ := Option.map_eq_some_iff.mp read
  rw [places] at same
  obtain ⟨rfl, rfl⟩ := Prod.mk.inj same
  obtain ⟨clock, valid, rfl, rfl⟩ := readHourMinute?_eq_some_iff.mp readClock
  exact ⟨.signed sign clock, ⟨signs, valid⟩, rfl, signed clock⟩

theorem readOffset?_eq_some_iff {minutes : Int} :
    readOffset? input = some (minutes, rest) ↔
      ∃ offset : WrittenOffset, offset.IsValid ∧ offset.text ++ rest = input ∧
        offset.minutes = minutes := by
  constructor
  · intro read
    unfold readOffset? at read
    split at read
    next =>
      obtain ⟨rfl, rfl⟩ := Prod.mk.inj (Option.some.inj read)
      exact ⟨.universal 'Z', by simp [WrittenOffset.IsValid], rfl, rfl⟩
    next =>
      obtain ⟨rfl, rfl⟩ := Prod.mk.inj (Option.some.inj read)
      exact ⟨.universal 'z', by simp [WrittenOffset.IsValid], rfl, rfl⟩
    next => exact exists_of_readSigned (fun _ _ => rfl) (by simp) (fun _ => rfl) read
    next => exact exists_of_readSigned (fun _ _ => rfl) (by simp) (fun _ => rfl) read
    next => exact exists_of_readSigned (fun _ _ => rfl) (by simp) (fun _ => rfl) read
    next => cases read
  · rintro ⟨offset, valid, rfl, rfl⟩
    exact readOffset?_append valid rest

/-! ## Fractions -/

/-- A point and digits behind it, or nothing. -/
def fractionText : List Digit → List Char
  | [] => []
  | d :: ds => '.' :: chars (d :: ds)

theorem readFraction?_append {ds : List Digit} (stops : Stops rest) (pointless : '.' ∉ rest.head?) :
    readFraction? (fractionText ds ++ rest) = some rest := by
  cases ds with
  | nil =>
      unfold fractionText readFraction?
      rw [List.nil_append]
      split
      next => simp at pointless
      next => rfl
  | cons d ds =>
      have spanned := spanDigits_append (d :: ds) stops
      unfold fractionText readFraction?
      simp only [List.cons_append, spanned]

theorem exists_of_readFraction? (read : readFraction? input = some rest) :
    ∃ ds, fractionText ds ++ rest = input := by
  unfold readFraction? at read
  split at read
  next behind =>
    have same := chars_spanDigits behind
    split at read
    next => cases read
    next ds after nonempty spanned =>
      obtain rfl := Option.some.inj read
      rw [spanned] at same
      cases ds with
      | nil => exact absurd rfl nonempty
      | cons d ds => exact ⟨d :: ds, congrArg ('.' :: ·) same⟩
  next => exact ⟨[], (Option.some.inj read).symm⟩

/-! ## Timestamps -/

/-- A timestamp as it is written. -/
structure WrittenTimestamp where
  year : List Digit
  month : List Digit
  day : List Digit
  separator : Char
  clock : WrittenClock
  second : List Digit
  fraction : List Digit
  offset : WrittenOffset

namespace WrittenTimestamp

def text (written : WrittenTimestamp) : List Char :=
  chars written.year ++ '-' :: (chars written.month ++ '-' :: (chars written.day ++
    written.separator :: (written.clock.text ++ ':' :: (chars written.second ++
      (fractionText written.fraction ++ written.offset.text)))))

/-- Every part has its width and lies within its bounds, and the day exists. -/
structure IsValid (written : WrittenTimestamp) : Prop where
  yearWidth : written.year.length = 4
  monthWidth : written.month.length = 2
  dayWidth : written.day.length = 2
  exists_day : DayExists (value written.year) (value written.month) (value written.day)
  separator : written.separator ∈ ['T', 't', ' ']
  clock : written.clock.IsValid
  secondWidth : written.second.length = 2
  second : value written.second ≤ 60
  offset : written.offset.IsValid

variable {written : WrittenTimestamp}

/-- The day that is written. -/
def IsValid.date (valid : written.IsValid) : Date :=
  ⟨value written.year, value written.month, value written.day, valid.exists_day⟩

/-- The time of day in universal time, in minutes since the start of the day that is written. -/
def shiftedMinute (written : WrittenTimestamp) : Int :=
  written.clock.minutes - written.offset.minutes

/-- Minutes from the start of year 1 to the minute of the timestamp, in universal time. -/
def IsValid.minute (valid : written.IsValid) : Int :=
  valid.date.dayNumber * 1440 + written.shiftedMinute

/-- The instant that is written: its minute, and the seconds since the start of this minute. -/
def IsValid.instant (valid : written.IsValid) : Int × Rat :=
  (valid.minute, value written.second +
    (value written.fraction : Rat) / ((10 ^ written.fraction.length : Nat) : Rat))

end WrittenTimestamp

theorem head?_offsetText {offset : WrittenOffset} (valid : offset.IsValid) :
    offset.text.head? ∈ ['Z', 'z', '+', '-', '−'].map some := by
  cases offset with
  | universal letter =>
      simp only [WrittenOffset.IsValid, List.mem_cons, List.not_mem_nil, or_false] at valid
      rcases valid with rfl | rfl <;> simp [WrittenOffset.text]
  | signed sign clock =>
      have signs := valid.1
      simp only [List.mem_cons, List.not_mem_nil, or_false] at signs
      rcases signs with rfl | rfl | rfl <;> simp [WrittenOffset.text]

theorem stops_offsetText {offset : WrittenOffset} (valid : offset.IsValid) : Stops offset.text := by
  intro c head
  have marks := head?_offsetText valid
  rw [Option.mem_def.mp head] at marks
  simp only [List.map_cons, List.map_nil, List.mem_cons, Option.some.injEq, List.not_mem_nil,
    or_false] at marks
  rcases marks with rfl | rfl | rfl | rfl | rfl <;> decide

theorem point_notMem_offsetText {offset : WrittenOffset} (valid : offset.IsValid) :
    '.' ∉ offset.text.head? := by
  intro head
  have marks := head?_offsetText valid
  rw [Option.mem_def.mp head] at marks
  revert marks
  decide

/-- What is read as an instant are the timestamps. -/
theorem readTimestamp?_eq_some_iff {minutes : Int} :
    readTimestamp? input = some minutes ↔
      ∃ written : WrittenTimestamp, ∃ valid : written.IsValid, written.text = input ∧
        valid.minute = minutes := by
  unfold readTimestamp?
  simp only [Option.bind_eq_bind, Option.bind_eq_some_iff, Prod.exists, readDigits?_eq_some_iff,
    readOneOf?_eq_some_iff, readHourMinute?_eq_some_iff, readOffset?_eq_some_iff,
    List.mem_singleton, exists_eq_left]
  constructor
  · rintro ⟨_, _, ⟨year, yearWidth, rfl, rfl⟩, _, rfl, _, _, ⟨month, monthWidth, rfl, rfl⟩, _, rfl,
      _, _, ⟨day, dayWidth, rfl, rfl⟩, date, found, _, ⟨separator, separates, rfl⟩, _, _,
      ⟨clock, validClock, rfl, rfl⟩, _, rfl, _, _, ⟨second, secondWidth, rfl, rfl⟩, _, read, _, _,
      ⟨offset, validOffset, rfl, rfl⟩, last⟩
    obtain ⟨fraction, rfl⟩ := exists_of_readFraction? read
    obtain ⟨sameYear, sameMonth, sameDay⟩ := Date.of?_eq_some_iff.mp found
    split at last
    next ending =>
      obtain ⟨inMinute, ended⟩ := ending
      obtain rfl := List.isEmpty_iff.mp ended
      have exists_day := date.exists_day
      rw [sameYear, sameMonth, sameDay] at exists_day
      refine ⟨⟨year, month, day, separator, clock, second, fraction, offset⟩,
        ⟨yearWidth, monthWidth, dayWidth, exists_day, separates, validClock, secondWidth, inMinute,
          validOffset⟩, ?_, ?_⟩
      · simp [WrittenTimestamp.text]
      · obtain ⟨_, _, _, _⟩ := date
        subst sameYear sameMonth sameDay
        rw [← Option.some.inj last]
        exact (Int.add_sub_assoc ..).symm
    next => cases last
  · rintro ⟨written, valid, rfl, rfl⟩
    have fraction : readFraction? (fractionText written.fraction ++ written.offset.text) =
        some written.offset.text :=
      readFraction?_append (stops_offsetText valid.offset) (point_notMem_offsetText valid.offset)
    refine ⟨_, _, ⟨written.year, valid.yearWidth, rfl, rfl⟩, _, rfl, _, _,
      ⟨written.month, valid.monthWidth, rfl, rfl⟩, _, rfl, _, _,
      ⟨written.day, valid.dayWidth, rfl, rfl⟩, valid.date, dif_pos valid.exists_day, _,
      ⟨written.separator, valid.separator, rfl⟩, _, _, ⟨written.clock, valid.clock, rfl, rfl⟩, _,
      rfl, _, _, ⟨written.second, valid.secondWidth, rfl, rfl⟩, _, fraction, _, _,
      ⟨written.offset, valid.offset, List.append_nil _, rfl⟩, ?_⟩
    rw [if_pos ⟨valid.second, rfl⟩]
    exact congrArg some (Int.add_sub_assoc ..)

/-! ## What is shown -/

@[simp]
theorem Minute.ofCount?_eq_some_iff {count : Int} {moment : Minute} :
    ofCount? count = some moment ↔
      moment.day.dayNumber * 1440 + moment.minute = count ∧ moment.minute < 1440 := by
  unfold ofCount?
  rw [Option.map_eq_some_iff]
  simp only [Date.ofDayNumber?_eq_some_iff]
  constructor
  · rintro ⟨day, number, rfl⟩
    dsimp only
    omega
  · obtain ⟨day, minute⟩ := moment
    rintro ⟨split, bound⟩
    dsimp only at split bound
    refine ⟨day, by omega, ?_⟩
    rw [Minute.mk.injEq]
    exact ⟨rfl, by omega⟩

namespace WrittenTimestamp

variable {written : WrittenTimestamp} {moment : Minute}

theorem shiftedMinute_bounds (valid : written.IsValid) :
    -1440 < written.shiftedMinute ∧ written.shiftedMinute < 2880 := by
  have clock := valid.clock.minutes_lt
  have offset := valid.offset.minutes_bounds
  unfold shiftedMinute
  omega

theorem IsValid.year_bounds (valid : written.IsValid) :
    0 ≤ valid.date.year ∧ valid.date.year < 10000 := by
  have bound := value_lt written.year
  rw [valid.yearWidth] at bound
  unfold date
  dsimp only
  omega

/-- Four digits and an offset of less than a day do not lead out of the calendar. -/
theorem IsValid.exists_ofCount? (valid : written.IsValid) :
    ∃ moment, Minute.ofCount? valid.minute = some moment := by
  obtain ⟨fromYear, toYear⟩ := valid.year_bounds
  have shifted := shiftedMinute_bounds valid
  have lower := daysBeforeYear_mono fromYear
  have upper := daysBeforeYear_mono (show valid.date.year + 1 ≤ 10000 by omega)
  have notBefore := valid.date.daysBeforeYear_le_dayNumber
  have notAfter := valid.date.dayNumber_lt
  -- On both sides of the years with four digits the calendar has at least one more day.
  have first : daysBeforeYear firstYear < daysBeforeYear 0 - 1 := by decide
  have last : daysBeforeYear 10000 + 1 < daysBeforeYear (lastYear + 1) := by decide
  have found : (Date.ofDayNumber? (valid.minute / 1440)).isSome := by
    apply Date.ofDayNumber?_isSome <;>
    · unfold minute
      omega
  obtain ⟨day, sameDay⟩ := Option.isSome_iff_exists.mp found
  exact ⟨_, by rw [Minute.ofCount?, sameDay]; rfl⟩

/-- The day in universal time is the day that is written, or the one before or after it. -/
theorem IsValid.rollsOver (valid : written.IsValid)
    (shown : Minute.ofCount? valid.minute = some moment) :
    (0 ≤ written.shiftedMinute ∧ written.shiftedMinute < 1440 → moment.day = valid.date) ∧
    (1440 ≤ written.shiftedMinute → moment.day.IsDayAfter valid.date) ∧
    (written.shiftedMinute < 0 → valid.date.IsDayAfter moment.day) := by
  obtain ⟨split, bound⟩ := Minute.ofCount?_eq_some_iff.mp shown
  have shifted := shiftedMinute_bounds valid
  unfold minute at split
  rw [Date.isDayAfter_iff, Date.isDayAfter_iff]
  refine ⟨?_, by omega, by omega⟩
  rintro ⟨notBefore, notAfter⟩
  apply Date.dayNumber_injective
  omega

theorem IsValid.displayTimestamp {text : String} (valid : written.IsValid)
    (same : written.text = text.toList) (shown : Minute.ofCount? valid.minute = some moment) :
    displayTimestamp text = String.ofList moment.text := by
  have read : readTimestamp? text.toList = some valid.minute :=
    readTimestamp?_eq_some_iff.mpr ⟨written, valid, same, rfl⟩
  unfold Calendar.displayTimestamp
  rw [read, Option.bind_some, shown]

end WrittenTimestamp

theorem displayTimestamp_of_not_valid {text : String}
    (invalid : ¬∃ written : WrittenTimestamp, written.IsValid ∧ written.text = text.toList) :
    displayTimestamp text = text := by
  have unread : readTimestamp? text.toList = none := by
    rw [Option.eq_none_iff_forall_ne_some]
    intro minutes read
    obtain ⟨written, valid, same, -⟩ := readTimestamp?_eq_some_iff.mp read
    exact invalid ⟨written, valid, same⟩
  unfold displayTimestamp
  rw [unread]
  rfl

/-- A timestamp is shown as the calendar day and the minute of its instant in universal time.  This
is the day that is written, the day after it or the day before it, by the time of day and the
offset.  Timestamps of one instant are shown alike, and any other text is shown as it is.  A year
before 0 or after 9999, to which only an offset leads, has a sign. -/
theorem displayTimestamp_shows_utc_minute (text : String) :
    (∀ (written : WrittenTimestamp) (valid : written.IsValid), written.text = text.toList →
      ∃ (day : Date) (hour minute : Nat), hour < 24 ∧ minute < 60 ∧
        day.dayNumber * 1440 + (hour * 60 + minute : Nat) = valid.minute ∧
        ((0 ≤ written.shiftedMinute ∧ written.shiftedMinute < 1440 → day = valid.date) ∧
          (1440 ≤ written.shiftedMinute → day.IsDayAfter valid.date) ∧
          (written.shiftedMinute < 0 → valid.date.IsDayAfter day)) ∧
        displayTimestamp text = String.ofList
          (padded 2 day.day ++ '/' :: padded 2 day.month ++ '/' :: Date.yearText day.year ++
            ' ' :: padded 2 hour ++ ':' :: padded 2 minute)) ∧
    (∀ (written : WrittenTimestamp) (valid : written.IsValid), written.text = text.toList →
      ∀ (other : String) (otherWritten : WrittenTimestamp) (otherValid : otherWritten.IsValid),
        otherWritten.text = other.toList → otherValid.instant = valid.instant →
        displayTimestamp other = displayTimestamp text) ∧
    ((¬∃ written : WrittenTimestamp, written.IsValid ∧ written.text = text.toList) →
      displayTimestamp text = text) := by
  refine ⟨?_, ?_, displayTimestamp_of_not_valid⟩
  · intro written valid same
    obtain ⟨moment, shown⟩ := valid.exists_ofCount?
    obtain ⟨split, bound⟩ := Minute.ofCount?_eq_some_iff.mp shown
    refine ⟨moment.day, moment.minute / 60, moment.minute % 60, by omega, by omega, ?_,
      valid.rollsOver shown, ?_⟩
    · rw [Nat.div_add_mod']
      exact split
    · rw [valid.displayTimestamp same shown, Minute.text, Date.dayFirstText]
  · intro written valid same other otherWritten otherValid otherSame alike
    obtain ⟨moment, shown⟩ := valid.exists_ofCount?
    have sameMinute : otherValid.minute = valid.minute := congrArg Prod.fst alike
    rw [valid.displayTimestamp same shown,
      otherValid.displayTimestamp otherSame (sameMinute ▸ shown)]

/-- Half an hour before midnight three hours behind universal time, on the day before a leap day. -/
def lateEvening : WrittenTimestamp where
  year := [2, 0, 2, 4].map lastDigit
  month := [0, 2].map lastDigit
  day := [2, 8].map lastDigit
  separator := 'T'
  clock := ⟨[2, 3].map lastDigit, [3, 0].map lastDigit⟩
  second := [0, 7].map lastDigit
  fraction := [5, 0].map lastDigit
  offset := .signed '-' ⟨[0, 3].map lastDigit, [0, 0].map lastDigit⟩

/-- The same instant in universal time. -/
def leapMorning : WrittenTimestamp where
  year := [2, 0, 2, 4].map lastDigit
  month := [0, 2].map lastDigit
  day := [2, 9].map lastDigit
  separator := ' '
  clock := ⟨[0, 2].map lastDigit, [3, 0].map lastDigit⟩
  second := [0, 7].map lastDigit
  fraction := [lastDigit 5]
  offset := .universal 'z'

theorem isValid_lateEvening : lateEvening.IsValid where
  yearWidth := rfl
  monthWidth := rfl
  dayWidth := rfl
  exists_day := by decide
  separator := by decide
  clock := ⟨rfl, by decide, rfl, by decide⟩
  secondWidth := rfl
  second := by decide
  offset := ⟨by decide, rfl, by decide, rfl, by decide⟩

theorem isValid_leapMorning : leapMorning.IsValid where
  yearWidth := rfl
  monthWidth := rfl
  dayWidth := rfl
  exists_day := by decide
  separator := by decide
  clock := ⟨rfl, by decide, rfl, by decide⟩
  secondWidth := rfl
  second := by decide
  offset := List.mem_cons_of_mem _ List.mem_cons_self

theorem displayTimestamp_shows_utc_minute_leapDay :
    (lateEvening.IsValid ∧ lateEvening.text = "2024-02-28T23:30:07.50-03:00".toList ∧
      1440 ≤ lateEvening.shiftedMinute ∧
      ∃ (day : Date) (hour minute : Nat), day.IsDayAfter isValid_lateEvening.date ∧
        displayTimestamp "2024-02-28T23:30:07.50-03:00" = String.ofList
          (padded 2 day.day ++ '/' :: padded 2 day.month ++ '/' :: Date.yearText day.year ++
            ' ' :: padded 2 hour ++ ':' :: padded 2 minute)) ∧
    (leapMorning.IsValid ∧ leapMorning.text = "2024-02-29 02:30:07.5z".toList ∧
      isValid_leapMorning.instant = isValid_lateEvening.instant ∧
      displayTimestamp "2024-02-29 02:30:07.5z" =
        displayTimestamp "2024-02-28T23:30:07.50-03:00" ∧
      displayTimestamp "2024-02-28T23:30:07.50-03:00" = "29/02/2024 02:30") ∧
    (¬∃ written : WrittenTimestamp, written.IsValid ∧ written.text = "ontem".toList) ∧
      displayTimestamp "ontem" = "ontem" := by
  have sameEvening : lateEvening.text = "2024-02-28T23:30:07.50-03:00".toList := by decide +kernel
  have sameMorning : leapMorning.text = "2024-02-29 02:30:07.5z".toList := by decide +kernel
  have later : 1440 ≤ lateEvening.shiftedMinute := by decide +kernel
  have sameInstant : isValid_leapMorning.instant = isValid_lateEvening.instant := by decide +kernel
  have unwritten : ¬∃ written : WrittenTimestamp, written.IsValid ∧
      written.text = "ontem".toList := by
    rintro ⟨written, valid, same⟩
    have read := readTimestamp?_eq_some_iff.mpr ⟨written, valid, same, rfl⟩
    have unread : readTimestamp? "ontem".toList = none := by decide +kernel
    rw [unread] at read
    cases read
  obtain ⟨shown, alike, -⟩ := displayTimestamp_shows_utc_minute "2024-02-28T23:30:07.50-03:00"
  obtain ⟨day, hour, minute, -, -, -, rolled, shownDay⟩ := shown _ isValid_lateEvening sameEvening
  refine ⟨⟨isValid_lateEvening, sameEvening, later, day, hour, minute, rolled.2.1 later, shownDay⟩,
    ⟨isValid_leapMorning, sameMorning, sameInstant, ?_, by decide +kernel⟩, unwritten, ?_⟩
  · exact alike _ isValid_lateEvening sameEvening _ _ isValid_leapMorning sameMorning sameInstant
  · exact (displayTimestamp_shows_utc_minute "ontem").2.2 unwritten

end FacetedSearch.Calendar
