import FacetedSearch.Calendar.Date
import FacetedSearch.Text

/-!
Reading a date from year, month and day with hyphens between them.

Blanks may stand before each of the three numbers.  In loose spacing they may also stand before a
hyphen and after the day.  A year without a sign has one to four digits; behind a sign it has any
number of digits.  Month and day have one or two digits.
-/

namespace FacetedSearch.Calendar

/-- Where blanks are allowed besides the places before a number. -/
inductive Spacing where
  | tight
  | loose
deriving DecidableEq

/-- Skips the blanks that the spacing allows before a hyphen and after the day. -/
def Spacing.skip : Spacing → List Char → List Char
  | .tight, text => text
  | .loose, text => Text.trimStart text

/-- The number of at most `limit` digits that a text starts with; there has to be a digit. -/
def readNumber? (limit : Nat) (text : List Char) : Option (Nat × List Char) :=
  match Decimal.takeDigits limit text with
  | ([], _) => none
  | (ds, rest) => some (Decimal.value ds, rest)

/-- The year that a text starts with, behind a sign of its own or in at most four digits. -/
def readYear? : List Char → Option (Int × List Char)
  | '-' :: text => (readNumber? text.length text).map fun (year, rest) => (-(year : Int), rest)
  | '+' :: text => (readNumber? text.length text).map fun (year, rest) => ((year : Int), rest)
  | text => (readNumber? 4 text).map fun (year, rest) => ((year : Int), rest)

def readHyphen? : List Char → Option (List Char)
  | '-' :: rest => some rest
  | _ => none

def Date.read? (spacing : Spacing) (text : List Char) : Option Date := do
  let (year, rest) ← readYear? (Text.trimStart text)
  let rest ← readHyphen? (spacing.skip rest)
  let (month, rest) ← readNumber? 2 (Text.trimStart rest)
  let rest ← readHyphen? (spacing.skip rest)
  let (day, rest) ← readNumber? 2 (Text.trimStart rest)
  if (spacing.skip rest).isEmpty then Date.of? year month day else none

/-- A date in tight spacing is shown day first; any other text is shown as it is. -/
def displayText (text : String) : String :=
  match Date.read? .tight text.toList with
  | some date => String.ofList date.dayFirstText
  | none => text

end FacetedSearch.Calendar
