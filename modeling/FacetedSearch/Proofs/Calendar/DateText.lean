import FacetedSearch.Calendar.DateText
import FacetedSearch.Proofs.Decimal
import FacetedSearch.Proofs.Text.Blank

/-!
# How a day may be written

A day is read from three numbers with hyphens between them.  There may be blanks before each number,
the year may have a sign and then any number of digits, and every number may have fewer digits than
its place holds.  Every text written in this way is read as the day it names, if this day exists,
and nothing else is read as a day.
-/

namespace FacetedSearch.Calendar

open Decimal Text

/-! ## Numbers -/

/-- A number as it is written: its digits, and the blanks and the sign before them. -/
structure WrittenNumber where
  blanks : List Char
  sign : Option Char
  digits : List Digit

namespace WrittenNumber

def text (written : WrittenNumber) : List Char :=
  written.blanks ++ (written.sign.toList ++ chars written.digits)

def number (written : WrittenNumber) : Nat :=
  value written.digits

def signed (written : WrittenNumber) : Int :=
  if written.sign = some '-' then -(written.number : Int) else written.number

/-- Blanks stand before the number, and there is a digit. -/
structure IsReadable (written : WrittenNumber) : Prop where
  blanks : ∀ c ∈ written.blanks, isBlank c = true
  nonempty : written.digits ≠ []

/-- A number without a sign, in at most `limit` digits. -/
structure IsPlain (limit : Nat) (written : WrittenNumber) : Prop extends IsReadable written where
  unsigned : written.sign = none
  short : written.digits.length ≤ limit

/-- A number behind a sign. -/
structure IsSigned (written : WrittenNumber) : Prop extends IsReadable written where
  signed : written.sign = some '+' ∨ written.sign = some '-'

/-- A number in exactly `width` digits, with nothing before them. -/
structure IsExact (width : Nat) (written : WrittenNumber) : Prop where
  blanks : written.blanks = []
  unsigned : written.sign = none
  width : written.digits.length = width

variable {written : WrittenNumber} {limit number : Nat} {input rest : List Char}

theorem IsExact.isPlain {width : Nat} (exact : written.IsExact (width + 1)) :
    written.IsPlain (width + 1) where
  blanks := by simp [exact.blanks]
  nonempty := List.ne_nil_of_length_eq_add_one exact.width
  unsigned := exact.unsigned
  short := exact.width.le

@[simp]
theorem isBlank_digitChar (d : Digit) : isBlank (digitChar d) = false := by
  revert d
  decide

theorem trimStart_blanks_append {blanks : List Char} (blank : ∀ c ∈ blanks, isBlank c = true)
    (solid : trimStart rest = rest) : trimStart (blanks ++ rest) = rest := by
  unfold trimStart at solid ⊢
  rw [List.dropWhile_append_of_pos blank, solid]

/-- The blanks that a text begins with can be put back. -/
theorem exists_blanks (input : List Char) :
    ∃ blanks, (∀ c ∈ blanks, isBlank c = true) ∧ blanks ++ trimStart input = input :=
  ⟨input.takeWhile isBlank, fun _ => List.mem_takeWhile_imp, List.takeWhile_append_dropWhile ..⟩

theorem trimStart_chars_append {ds : List Digit} (nonempty : ds ≠ []) (rest : List Char) :
    trimStart (chars ds ++ rest) = chars ds ++ rest := by
  cases ds with
  | nil => exact absurd rfl nonempty
  | cons d ds =>
      exact List.dropWhile_cons_of_neg (by rw [isBlank_digitChar]; exact Bool.false_ne_true)

theorem readNumber?_chars_append {ds : List Digit} (nonempty : ds ≠ []) (short : ds.length ≤ limit)
    (stops : Stops rest) : readNumber? limit (chars ds ++ rest) = some (value ds, rest) := by
  unfold readNumber?
  rw [takeDigits_append short fun _ => stops]
  cases ds with
  | nil => exact absurd rfl nonempty
  | cons d ds => rfl

theorem exists_of_readNumber? (read : readNumber? limit input = some (number, rest)) :
    ∃ ds, ds ≠ [] ∧ ds.length ≤ limit ∧ chars ds ++ rest = input ∧ value ds = number := by
  obtain ⟨short, same⟩ := takeDigits_spec limit input
  unfold readNumber? at read
  split at read
  next => cases read
  next ds after nonempty taken =>
    rw [taken] at short same
    obtain ⟨rfl, rfl⟩ := Prod.mk.inj (Option.some.inj read)
    exact ⟨ds, nonempty, short, same, rfl⟩

theorem IsPlain.readNumber? (plain : written.IsPlain limit) (stops : Stops rest) :
    readNumber? limit (trimStart (written.text ++ rest)) = some (written.number, rest) := by
  have solid := trimStart_chars_append plain.nonempty rest
  unfold WrittenNumber.text
  rw [plain.unsigned, Option.toList_none, List.nil_append, List.append_assoc,
    trimStart_blanks_append plain.blanks solid]
  exact readNumber?_chars_append plain.nonempty plain.short stops

theorem exists_isPlain
    (read : Calendar.readNumber? limit (trimStart input) = some (number, rest)) :
    ∃ written : WrittenNumber, written.IsPlain limit ∧ written.text ++ rest = input ∧
      written.number = number := by
  obtain ⟨blanks, blank, restored⟩ := exists_blanks input
  obtain ⟨ds, nonempty, short, same, value⟩ := exists_of_readNumber? read
  refine ⟨⟨blanks, none, ds⟩, ⟨⟨blank, nonempty⟩, rfl, short⟩, ?_, value⟩
  rw [← restored, ← same]
  exact List.append_assoc ..

/-! ## Years -/

theorem readYear?_chars_append {ds : List Digit} (nonempty : ds ≠ []) (short : ds.length ≤ 4)
    (stops : Stops rest) : readYear? (chars ds ++ rest) = some ((value ds : Int), rest) := by
  have read := readNumber?_chars_append nonempty short stops
  cases ds with
  | nil => exact absurd rfl nonempty
  | cons d ds =>
      have unsigned := readYear?.eq_3 (chars (d :: ds) ++ rest)
        (fun _ same => digitChar_ne (by decide) d (List.cons.inj same).1)
        (fun _ same => digitChar_ne (by decide) d (List.cons.inj same).1)
      rw [unsigned, read]
      rfl

/-- Behind a sign the number of digits has no limit. -/
theorem readNumber?_length_chars_append {ds : List Digit} (nonempty : ds ≠ [])
    (stops : Stops rest) :
    Calendar.readNumber? (chars ds ++ rest).length (chars ds ++ rest) = some (value ds, rest) := by
  refine readNumber?_chars_append nonempty ?_ stops
  rw [List.length_append, chars, List.length_map]
  exact Nat.le_add_right ..

theorem IsPlain.readYear? (plain : written.IsPlain 4) (stops : Stops rest) :
    readYear? (trimStart (written.text ++ rest)) = some (written.signed, rest) := by
  have solid := trimStart_chars_append plain.nonempty rest
  unfold WrittenNumber.text WrittenNumber.signed
  rw [plain.unsigned, Option.toList_none, List.nil_append, List.append_assoc,
    trimStart_blanks_append plain.blanks solid,
    readYear?_chars_append plain.nonempty plain.short stops]
  rfl

theorem IsSigned.readYear? (isSigned : written.IsSigned) (stops : Stops rest) :
    readYear? (trimStart (written.text ++ rest)) = some (written.signed, rest) := by
  have read := readNumber?_length_chars_append isSigned.nonempty stops
  unfold WrittenNumber.text WrittenNumber.signed
  rcases isSigned.signed with sign | sign <;>
    · rw [sign, List.append_assoc, trimStart_blanks_append isSigned.blanks rfl]
      simp only [Option.toList_some, List.cons_append, List.nil_append, Calendar.readYear?, read]
      rfl

/-- A number that can stand for a year. -/
def IsYear (written : WrittenNumber) : Prop :=
  written.IsPlain 4 ∨ written.IsSigned

theorem IsYear.readYear? (isYear : written.IsYear) (stops : Stops rest) :
    readYear? (trimStart (written.text ++ rest)) = some (written.signed, rest) :=
  isYear.elim (·.readYear? stops) (·.readYear? stops)

theorem exists_of_signed {signOf : Nat → Int} {sign : Nat × List Char → Int × List Char}
    {year : Int} (signs : ∀ number left, sign (number, left) = (signOf number, left))
    (read : (Calendar.readNumber? limit input).map sign = some (year, rest)) :
    ∃ ds, ds ≠ [] ∧ ds.length ≤ limit ∧ chars ds ++ rest = input ∧ signOf (value ds) = year := by
  obtain ⟨⟨number, left⟩, readDigits, same⟩ := Option.map_eq_some_iff.mp read
  rw [signs] at same
  obtain ⟨rfl, rfl⟩ := Prod.mk.inj same
  obtain ⟨ds, nonempty, short, restored, rfl⟩ := exists_of_readNumber? readDigits
  exact ⟨ds, nonempty, short, restored, rfl⟩

theorem exists_isYear {year : Int}
    (read : Calendar.readYear? (trimStart input) = some (year, rest)) :
    ∃ written : WrittenNumber, written.IsYear ∧ written.text ++ rest = input ∧
      written.signed = year := by
  obtain ⟨blanks, blank, restored⟩ := exists_blanks input
  rw [← restored]
  generalize trimStart input = shown at read
  unfold Calendar.readYear? at read
  split at read
  next after =>
    obtain ⟨ds, nonempty, -, rfl, rfl⟩ := exists_of_signed (fun _ _ => rfl) read
    exact ⟨⟨blanks, some '-', ds⟩, .inr ⟨⟨blank, nonempty⟩, .inr rfl⟩, List.append_assoc .., rfl⟩
  next after =>
    obtain ⟨ds, nonempty, -, rfl, rfl⟩ := exists_of_signed (fun _ _ => rfl) read
    exact ⟨⟨blanks, some '+', ds⟩, .inr ⟨⟨blank, nonempty⟩, .inl rfl⟩, List.append_assoc .., rfl⟩
  next =>
    obtain ⟨ds, nonempty, short, rfl, rfl⟩ := exists_of_signed (fun _ _ => rfl) read
    exact ⟨⟨blanks, none, ds⟩, .inl ⟨⟨blank, nonempty⟩, rfl, short⟩, List.append_assoc .., rfl⟩

end WrittenNumber

/-! ## Days -/

/-- A day as it is written. -/
structure WrittenDay where
  year : WrittenNumber
  month : WrittenNumber
  day : WrittenNumber

namespace WrittenDay

variable {written : WrittenDay} {date : Date}

def text (written : WrittenDay) : List Char :=
  written.year.text ++ '-' :: (written.month.text ++ '-' :: written.day.text)

/-- The day is written in a way that is read. -/
structure IsReadable (written : WrittenDay) : Prop where
  year : written.year.IsYear
  month : written.month.IsPlain 2
  day : written.day.IsPlain 2

/-- The day is written in four, two and two digits, and there is nothing but the hyphens besides. -/
structure IsIso (written : WrittenDay) : Prop where
  year : written.year.IsExact 4
  month : written.month.IsExact 2
  day : written.day.IsExact 2

/-- The numbers are those of a day. -/
structure Names (written : WrittenDay) (date : Date) : Prop where
  year : date.year = written.year.signed
  month : date.month = written.month.number
  day : date.day = written.day.number

theorem IsIso.isReadable (isIso : written.IsIso) : written.IsReadable :=
  ⟨.inl isIso.year.isPlain, isIso.month.isPlain, isIso.day.isPlain⟩

end WrittenDay

/-- A text writes a day in a way that is read. -/
def ReadsAs (text : List Char) (date : Date) : Prop :=
  ∃ written : WrittenDay, written.IsReadable ∧ written.text = text ∧ written.Names date

/-- A text writes a day in four, two and two digits. -/
def IsIsoFor (text : List Char) (date : Date) : Prop :=
  ∃ written : WrittenDay, written.IsIso ∧ written.text = text ∧ written.Names date

variable {text rest : List Char} {date : Date}

theorem IsIsoFor.readsAs (iso : IsIsoFor text date) : ReadsAs text date := by
  obtain ⟨written, isIso, same, names⟩ := iso
  exact ⟨written, isIso.isReadable, same, names⟩

@[simp]
theorem Date.of?_eq_some_iff {year : Int} {month day : Nat} :
    Date.of? year month day = some date ↔
      date.year = year ∧ date.month = month ∧ date.day = day := by
  unfold Date.of?
  split
  next exists_day =>
    rw [Option.some.injEq]
    constructor
    · rintro rfl
      exact ⟨rfl, rfl, rfl⟩
    · rintro ⟨rfl, rfl, rfl⟩
      rfl
  next missing =>
    constructor
    · intro impossible
      cases impossible
    · rintro ⟨rfl, rfl, rfl⟩
      exact absurd date.exists_day missing

@[simp]
theorem readHyphen?_eq_some_iff : readHyphen? text = some rest ↔ text = '-' :: rest := by
  unfold readHyphen?
  split
  next after => rw [Option.some.injEq, List.cons.injEq, eq_self, true_and]
  next other =>
    constructor
    · intro impossible
      cases impossible
    · rintro rfl
      exact absurd rfl (other rest)

theorem stops_hyphen (rest : List Char) : Stops ('-' :: rest) := by
  intro c head
  obtain rfl := Option.some.inj head
  decide

/-- The spacing allows blanks, but asks for none. -/
@[simp]
theorem Spacing.skip_hyphen (spacing : Spacing) (rest : List Char) :
    spacing.skip ('-' :: rest) = '-' :: rest := by
  cases spacing <;> rfl

@[simp]
theorem Spacing.skip_nil (spacing : Spacing) : spacing.skip [] = [] := by
  cases spacing <;> rfl

/-- A day that is written in a readable way is read in any spacing, if it exists. -/
theorem WrittenDay.IsReadable.read? {written : WrittenDay} (readable : written.IsReadable)
    {spacing : Spacing} :
    Date.read? spacing written.text =
      Date.of? written.year.signed written.month.number written.day.number := by
  have stops : Stops [] := nofun
  have readDay := readable.day.readNumber? stops
  rw [List.append_nil] at readDay
  unfold Date.read? WrittenDay.text
  simp only [Option.bind_eq_bind, readable.year.readYear? (stops_hyphen _), Spacing.skip_hyphen,
    readable.month.readNumber? (stops_hyphen _), readDay, readHyphen?, Spacing.skip_nil,
    Option.bind_some, List.isEmpty_nil, if_true]

/-- What is read as a day are the texts that write one. -/
theorem read?_tight_eq_some_iff : Date.read? .tight text = some date ↔ ReadsAs text date := by
  constructor
  · unfold Date.read?
    simp only [Option.bind_eq_bind, Option.bind_eq_some_iff, Spacing.skip]
    rintro ⟨⟨yearNumber, rest⟩, readYear, afterYear, firstHyphen, ⟨monthNumber, rest⟩, readMonth,
      afterMonth, secondHyphen, ⟨dayNumber, rest⟩, readDay, ended⟩
    obtain ⟨year, isYear, rfl, rfl⟩ := WrittenNumber.exists_isYear readYear
    obtain rfl := readHyphen?_eq_some_iff.mp firstHyphen
    obtain ⟨month, isMonth, rfl, rfl⟩ := WrittenNumber.exists_isPlain readMonth
    obtain rfl := readHyphen?_eq_some_iff.mp secondHyphen
    obtain ⟨day, isDay, rfl, rfl⟩ := WrittenNumber.exists_isPlain readDay
    cases rest with
    | nil =>
        obtain ⟨sameYear, sameMonth, sameDay⟩ := Date.of?_eq_some_iff.mp ended
        refine ⟨⟨year, month, day⟩, ⟨isYear, isMonth, isDay⟩, ?_, sameYear, sameMonth, sameDay⟩
        rw [WrittenDay.text, List.append_nil]
    | cons c rest => cases ended
  · rintro ⟨written, readable, rfl, names⟩
    rw [readable.read?, Date.of?_eq_some_iff]
    exact ⟨names.year, names.month, names.day⟩

theorem ReadsAs.unique {other : Date} (reads : ReadsAs text date) (again : ReadsAs text other) :
    date = other := by
  rw [← read?_tight_eq_some_iff] at reads again
  exact Option.some.inj (reads.symm.trans again)

/-! ## The day that is shown -/

theorem WrittenNumber.IsReadable.slash_not_mem {written : WrittenNumber}
    (readable : written.IsReadable) (signs : '/' ∉ written.sign.toList) : '/' ∉ written.text := by
  intro membership
  rcases List.mem_append.mp membership with inBlanks | behind
  · have blank := readable.blanks _ inBlanks
    revert blank
    decide
  · rcases List.mem_append.mp behind with inSign | inDigits
    · exact signs inSign
    · obtain ⟨d, -, same⟩ := List.mem_map.mp inDigits
      revert d
      decide

theorem WrittenNumber.IsPlain.slash_not_mem {limit : Nat} {written : WrittenNumber}
    (plain : written.IsPlain limit) : '/' ∉ written.text := by
  apply plain.toIsReadable.slash_not_mem
  rw [plain.unsigned]
  exact List.not_mem_nil

theorem WrittenNumber.IsSigned.slash_not_mem {written : WrittenNumber}
    (isSigned : written.IsSigned) : '/' ∉ written.text := by
  apply isSigned.toIsReadable.slash_not_mem
  rcases isSigned.signed with sign | sign <;>
    · rw [sign]
      decide

theorem ReadsAs.slash_not_mem (reads : ReadsAs text date) : '/' ∉ text := by
  obtain ⟨written, readable, rfl, -⟩ := reads
  have inYear : '/' ∉ written.year.text := readable.year.elim (·.slash_not_mem) (·.slash_not_mem)
  simp [WrittenDay.text, inYear, readable.month.slash_not_mem, readable.day.slash_not_mem]

theorem displayText_of_readsAs {text : String} (reads : ReadsAs text.toList date) :
    displayText text = String.ofList date.dayFirstText := by
  unfold displayText
  rw [read?_tight_eq_some_iff.mpr reads]

theorem displayText_ne_iff {text : String} :
    displayText text ≠ text ↔ ∃ date, ReadsAs text.toList date := by
  constructor
  · intro differs
    cases read : Date.read? .tight text.toList with
    | none =>
        refine absurd ?_ differs
        rw [displayText, read]
    | some date => exact ⟨date, read?_tight_eq_some_iff.mp read⟩
  · rintro ⟨date, reads⟩ same
    rw [displayText_of_readsAs reads] at same
    apply reads.slash_not_mem
    rw [← same, String.toList_ofList, Date.dayFirstText]
    simp

/-! ## Days in four, two and two digits -/

theorem WrittenNumber.IsExact.padded {width : Nat} {written : WrittenNumber}
    (exact : written.IsExact (width + 1)) :
    padded (width + 1) written.number = chars written.digits := by
  rw [← exact.width]
  exact padded_value exact.isPlain.nonempty

theorem WrittenNumber.IsExact.length_text {width : Nat} {written : WrittenNumber}
    (exact : written.IsExact width) : written.text.length = width := by
  simp [WrittenNumber.text, exact.blanks, exact.unsigned, chars, exact.width]

namespace WrittenDay.IsIso

variable {written : WrittenDay}

theorem length_text (isIso : written.IsIso) : written.text.length = 10 := by
  simp [WrittenDay.text, isIso.year.length_text, isIso.month.length_text, isIso.day.length_text]

theorem signed_year (isIso : written.IsIso) :
    written.year.signed = (written.year.number : Int) := by
  rw [WrittenNumber.signed, isIso.year.unsigned]
  rfl

theorem exists_readsAs_iff (isIso : written.IsIso) :
    (∃ date, ReadsAs written.text date) ↔
      DayExists written.year.number written.month.number written.day.number := by
  simp only [← read?_tight_eq_some_iff, isIso.isReadable.read?, isIso.signed_year]
  unfold Date.of?
  split
  next exists_day => exact iff_of_true ⟨_, rfl⟩ exists_day
  next missing =>
    refine iff_of_false ?_ missing
    rintro ⟨date, impossible⟩
    cases impossible

theorem names_of_readsAs (isIso : written.IsIso) (reads : ReadsAs written.text date) :
    written.Names date := by
  rw [← read?_tight_eq_some_iff, isIso.isReadable.read?, Date.of?_eq_some_iff] at reads
  exact ⟨reads.1, reads.2.1, reads.2.2⟩

/-- What is written in four, two and two digits is shown in the same digits. -/
theorem dayFirstText (isIso : written.IsIso) (names : written.Names date) :
    date.dayFirstText =
      chars written.day.digits ++ '/' :: chars written.month.digits ++
        '/' :: chars written.year.digits := by
  have positive : date.year = (written.year.number : Int) := by
    rw [names.year, isIso.signed_year]
  have bounded : written.year.number < 10000 := by
    have small := value_lt written.year.digits
    rw [isIso.year.width] at small
    exact small
  have fourDigits : Date.yearText date.year = chars written.year.digits := by
    rw [Date.yearText, positive, if_pos (by omega), Int.toNat_natCast, isIso.year.padded]
  rw [Date.dayFirstText, names.day, names.month, isIso.day.padded, isIso.month.padded, fourDigits]

end WrittenDay.IsIso

end FacetedSearch.Calendar
