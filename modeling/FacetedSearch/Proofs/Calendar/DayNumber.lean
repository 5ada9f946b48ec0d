import FacetedSearch.Calendar.Date
import Mathlib.Data.List.Basic

/-!
# Counting days

The number of a day determines the day: every day is found again by its number, and what is found
has the number that was asked for.  One number on is one day on by the calendar, over the ends of
months and years.
-/

namespace FacetedSearch.Calendar

/-! ## Months within a year -/

@[simp]
theorem totalDays_append (first second : List Nat) :
    totalDays (first ++ second) = totalDays first + totalDays second := by
  induction first with
  | nil => simp [totalDays]
  | cons length first inductionHypothesis =>
      simp [totalDays, inductionHypothesis, Nat.add_assoc]

theorem totalDays_take_succ (lengths : List Nat) (places : Nat) :
    totalDays (lengths.take (places + 1)) =
      totalDays (lengths.take places) + lengths.getD places 0 := by
  rw [List.take_add_one, totalDays_append, List.getD_eq_getElem?_getD]
  cases lengths[places]? <;> simp [totalDays]

theorem totalDays_take_le (lengths : List Nat) (places : Nat) :
    totalDays (lengths.take places) ≤ totalDays lengths := by
  calc
    totalDays (lengths.take places) ≤
        totalDays (lengths.take places) + totalDays (lengths.drop places) := Nat.le_add_right ..
    _ = totalDays lengths := by rw [← totalDays_append, List.take_append_drop]

theorem monthAndDay_take {lengths : List Nat} {places rest : Nat} (month : Nat)
    (within : rest < lengths.getD places 0) :
    monthAndDay month lengths (totalDays (lengths.take places) + rest) =
      (month + places, rest + 1) := by
  induction lengths generalizing month places with
  | nil => simp at within
  | cons length lengths inductionHypothesis =>
      cases places with
      | zero =>
          simp only [List.getD_cons_zero] at within
          simp [monthAndDay, totalDays, within]
      | succ places =>
          have found := inductionHypothesis (month + 1) (by simpa using within)
          have later : ¬totalDays ((length :: lengths).take (places + 1)) + rest < length := by
            simp only [List.take_succ_cons, totalDays]
            omega
          rw [monthAndDay, if_neg later, List.take_succ_cons, totalDays, Nat.add_assoc length,
            Nat.add_sub_cancel_left, found]
          simp only [Prod.mk.injEq, and_true]
          omega

theorem exists_take {lengths : List Nat} {rest : Nat} (within : rest < totalDays lengths) :
    ∃ places left, left < lengths.getD places 0 ∧
      rest = totalDays (lengths.take places) + left := by
  induction lengths generalizing rest with
  | nil => simp [totalDays] at within
  | cons length lengths inductionHypothesis =>
      by_cases here : rest < length
      · exact ⟨0, rest, by simpa using here, by simp [totalDays]⟩
      · simp only [totalDays] at within
        have fewer : rest - length < totalDays lengths := by omega
        obtain ⟨places, left, inside, same⟩ := inductionHypothesis fewer
        refine ⟨places + 1, left, by simpa using inside, ?_⟩
        simp only [List.take_succ_cons, totalDays]
        omega

@[simp]
theorem length_monthLengths (year : Int) : (monthLengths year).length = 12 :=
  rfl

theorem one_le_of_mem_monthLengths {year : Int} {length : Nat}
    (membership : length ∈ monthLengths year) : 1 ≤ length := by
  revert length
  unfold monthLengths
  cases isLeap year <;> decide

/-! ## Years -/

/-- A day number lies in one year only. -/
theorem yearOfDayNumber_eq {number year : Int} (lower : daysBeforeYear year ≤ number)
    (upper : number < daysBeforeYear (year + 1)) : yearOfDayNumber number = year := by
  obtain ⟨foundLower, foundUpper⟩ := yearOfDayNumber_bounds number
  rcases Int.lt_trichotomy (yearOfDayNumber number) year with earlier | same | later
  · have := daysBeforeYear_mono (show yearOfDayNumber number + 1 ≤ year by omega)
    omega
  · exact same
  · have := daysBeforeYear_mono (show year + 1 ≤ yearOfDayNumber number by omega)
    omega

namespace Date

variable {date next : Date} {number : Int}

@[simp]
theorem one_le_month (date : Date) : 1 ≤ date.month := by
  obtain ⟨-, -, positive, bounded⟩ := date.exists_day
  by_contra zero
  rw [monthLength, if_pos (by omega)] at bounded
  omega

@[simp]
theorem month_le_twelve (date : Date) : date.month ≤ 12 := by
  obtain ⟨-, -, positive, bounded⟩ := date.exists_day
  by_contra beyond
  have outside : (monthLengths date.year).length ≤ date.month - 1 := by
    rw [length_monthLengths]
    omega
  rw [monthLength, if_neg (by omega), List.getD_eq_getElem?_getD,
    List.getElem?_eq_none outside] at bounded
  exact absurd positive (Nat.not_le.mpr (Nat.lt_succ_of_le bounded))

theorem monthLength_eq (year : Int) {month : Nat} (positive : 1 ≤ month) :
    monthLength year month = (monthLengths year).getD (month - 1) 0 := by
  rw [monthLength, if_neg (by omega)]

/-- The days of the year before a day. -/
def daysBefore (date : Date) : Nat :=
  daysBeforeMonth date.year date.month + (date.day - 1)

theorem dayNumber_eq (date : Date) :
    date.dayNumber = daysBeforeYear date.year + (date.daysBefore : Int) := by
  have positive := date.exists_day.2.2.1
  unfold dayNumber daysBefore
  omega

theorem day_within_month (date : Date) :
    date.day - 1 < (monthLengths date.year).getD (date.month - 1) 0 := by
  obtain ⟨-, -, positive, bounded⟩ := date.exists_day
  rw [monthLength_eq _ date.one_le_month] at bounded
  omega

theorem daysBefore_lt (date : Date) : date.daysBefore < totalDays (monthLengths date.year) := by
  have whole := totalDays_take_succ (monthLengths date.year) (date.month - 1)
  have bounded := totalDays_take_le (monthLengths date.year) (date.month - 1 + 1)
  have within := date.day_within_month
  unfold daysBefore daysBeforeMonth
  omega

theorem daysBeforeYear_le_dayNumber (date : Date) : daysBeforeYear date.year ≤ date.dayNumber := by
  rw [dayNumber_eq]
  omega

theorem dayNumber_lt (date : Date) : date.dayNumber < daysBeforeYear (date.year + 1) := by
  have within := date.daysBefore_lt
  rw [dayNumber_eq, daysBeforeYear_succ]
  omega

/-- Every day is found by its number. -/
@[simp]
theorem ofDayNumber?_dayNumber (date : Date) : ofDayNumber? date.dayNumber = some date := by
  have year := yearOfDayNumber_eq date.daysBeforeYear_le_dayNumber date.dayNumber_lt
  have rest : (date.dayNumber - daysBeforeYear date.year).toNat = date.daysBefore := by
    rw [dayNumber_eq]
    omega
  have found := monthAndDay_take 1 date.day_within_month
  have positive := date.exists_day.2.2.1
  have positiveMonth := date.one_le_month
  rw [Nat.add_sub_cancel' positiveMonth, Nat.sub_add_cancel positive] at found
  simp only [ofDayNumber?, year, rest]
  rw [daysBefore, daysBeforeMonth, found]
  exact dif_pos date.exists_day

theorem dayNumber_injective (same : date.dayNumber = next.dayNumber) : date = next := by
  have found := date.ofDayNumber?_dayNumber
  rw [same, ofDayNumber?_dayNumber] at found
  exact (Option.some.inj found).symm

/-- What is found by a number is the day with this number. -/
@[simp]
theorem ofDayNumber?_eq_some_iff : ofDayNumber? number = some date ↔ date.dayNumber = number := by
  constructor
  · intro found
    obtain ⟨lower, upper⟩ := yearOfDayNumber_bounds number
    rw [daysBeforeYear_succ] at upper
    obtain ⟨places, left, within, split⟩ := exists_take
      (show (number - daysBeforeYear (yearOfDayNumber number)).toNat <
        totalDays (monthLengths (yearOfDayNumber number)) by omega)
    simp only [ofDayNumber?, split, monthAndDay_take 1 within, of?] at found
    split at found
    next =>
      obtain rfl := Option.some.inj found
      rw [dayNumber_eq]
      simp only [daysBefore, daysBeforeMonth, Nat.add_sub_cancel_left, Nat.add_sub_cancel]
      omega
    next => cases found
  · rintro rfl
    exact date.ofDayNumber?_dayNumber

/-! ## The day after -/

/-- The day after a day: the next one of its month, or the first one of the next month, or the first
one of the next year. -/
def IsDayAfter (next date : Date) : Prop :=
  (next.year = date.year ∧ next.month = date.month ∧ next.day = date.day + 1) ∨
  (date.day = monthLength date.year date.month ∧
    next.year = date.year ∧ next.month = date.month + 1 ∧ next.day = 1) ∨
  (date.month = 12 ∧ date.day = 31 ∧
    next.year = date.year + 1 ∧ next.month = 1 ∧ next.day = 1)

theorem daysBeforeMonth_succ (year : Int) {month : Nat} (positive : 1 ≤ month) :
    daysBeforeMonth year (month + 1) = daysBeforeMonth year month + monthLength year month := by
  have step := totalDays_take_succ (monthLengths year) (month - 1)
  rw [Nat.sub_add_cancel positive] at step
  rw [monthLength_eq year positive]
  exact step

@[simp]
theorem monthLength_twelve (year : Int) : monthLength year 12 = 31 :=
  rfl

@[simp]
theorem one_le_monthLength_one (year : Int) : 1 ≤ monthLength year 1 :=
  Nat.le_add_left 1 30

@[simp]
theorem daysBeforeMonth_one (year : Int) : daysBeforeMonth year 1 = 0 :=
  rfl

@[simp]
theorem daysBeforeMonth_thirteen (year : Int) :
    daysBeforeMonth year 13 = totalDays (monthLengths year) :=
  rfl

theorem IsDayAfter.dayNumber (after : next.IsDayAfter date) :
    next.dayNumber = date.dayNumber + 1 := by
  have positiveMonth := date.one_le_month
  unfold Date.dayNumber
  rcases after with ⟨year, month, day⟩ | ⟨last, year, month, day⟩ |
    ⟨december, last, year, month, day⟩
  · rw [year, month, day]
    omega
  · rw [year, month, day, daysBeforeMonth_succ date.year positiveMonth, ← last]
    omega
  · have whole := daysBeforeMonth_succ date.year (show 1 ≤ 12 by omega)
    rw [daysBeforeMonth_thirteen, monthLength_twelve] at whole
    rw [year, month, day, december, last, daysBeforeYear_succ, daysBeforeMonth_one, whole]
    omega

theorem year_le_of_dayNumber_le (order : date.dayNumber ≤ next.dayNumber) :
    date.year ≤ next.year := by
  by_contra later
  have := daysBeforeYear_mono (show next.year + 1 ≤ date.year by omega)
  have := date.daysBeforeYear_le_dayNumber
  have := next.dayNumber_lt
  omega

/-- A day that has a later one has a day after it. -/
theorem exists_isDayAfter (later : date.dayNumber < next.dayNumber) :
    ∃ following : Date, following.IsDayAfter date := by
  obtain ⟨notBefore, notAfter, positive, bounded⟩ := date.exists_day
  have positiveMonth := date.one_le_month
  by_cases inside : date.day < monthLength date.year date.month
  · exact ⟨⟨date.year, date.month, date.day + 1, notBefore, notAfter, by omega, inside⟩,
      .inl ⟨rfl, rfl, rfl⟩⟩
  · have last : date.day = monthLength date.year date.month := by omega
    by_cases december : date.month = 12
    · rw [december, monthLength_twelve] at last
      have another : date.year + 1 ≤ lastYear := by
        -- On the last day of the calendar there is no number left for a later day.
        by_contra lastOne
        have order := year_le_of_dayNumber_le (Int.le_of_lt later)
        have bound := next.exists_day.2.1
        have same : next.year = date.year := by omega
        have upper := next.daysBefore_lt
        have whole := daysBeforeMonth_succ date.year (show 1 ≤ 12 by omega)
        rw [daysBeforeMonth_thirteen, monthLength_twelve] at whole
        rw [dayNumber_eq, dayNumber_eq, same, daysBefore, december, last] at later
        rw [same] at upper
        omega
      exact ⟨⟨date.year + 1, 1, 1, by omega, another, Nat.le_refl 1, one_le_monthLength_one _⟩,
        .inr (.inr ⟨december, last, rfl, rfl, rfl⟩)⟩
    · have more : 1 ≤ monthLength date.year (date.month + 1) := by
        have upper := date.month_le_twelve
        have within : date.month + 1 - 1 < (monthLengths date.year).length := by
          rw [length_monthLengths]
          omega
        rw [monthLength_eq _ (by omega), List.getD_eq_getElem?_getD,
          List.getElem?_eq_getElem within]
        exact one_le_of_mem_monthLengths (List.getElem_mem within)
      exact ⟨⟨date.year, date.month + 1, 1, notBefore, notAfter, Nat.le_refl 1, more⟩,
        .inr (.inl ⟨last, rfl, rfl, rfl⟩)⟩

/-- One number on is one day on. -/
theorem isDayAfter_iff : next.IsDayAfter date ↔ next.dayNumber = date.dayNumber + 1 := by
  constructor
  · exact IsDayAfter.dayNumber
  · intro following
    obtain ⟨found, after⟩ := exists_isDayAfter (show date.dayNumber < next.dayNumber by omega)
    have same : found = next := dayNumber_injective (after.dayNumber.trans following.symm)
    rwa [← same]

end Date

end FacetedSearch.Calendar
