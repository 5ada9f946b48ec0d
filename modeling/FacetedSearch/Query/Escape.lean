/-!
Escaping of user text inside an engine expression.

A backslash before a character takes away its meaning in the expression.  Literals escape every
character that has a meaning; phrases, which stand between quotes, escape only the quote and the
backslash itself.
-/

namespace FacetedSearch.Query

/-- The characters with a meaning in an engine expression. -/
def reservedChars : List Char :=
  ['+', '-', '&', '|', '!', '(', ')', '\x7b', '\x7d', '[', ']', '^', '"', '~', '*', '?', ':', '\\']

def isReserved (c : Char) : Bool :=
  reservedChars.contains c

/-- Whether a character has a meaning between quotes. -/
def isPhraseSpecial (c : Char) : Bool :=
  c == '"' || c == '\\'

/-- Puts a backslash before each character that is special. -/
def escapeWith (special : Char → Bool) : List Char → List Char
  | [] => []
  | c :: rest =>
      if special c then '\\' :: c :: escapeWith special rest else c :: escapeWith special rest

/-- User text as a literal of an engine expression. -/
def escapeLiteral (raw : String) : String :=
  String.ofList (escapeWith isReserved raw.toList)

/-- User text as the inside of a quoted phrase. -/
def escapePhrase (raw : String) : String :=
  String.ofList (escapeWith isPhraseSpecial raw.toList)

/-- Two texts can be escaped one after the other. -/
@[simp]
theorem escapeWith_append (special : Char → Bool) (first second : List Char) :
    escapeWith special (first ++ second) =
      escapeWith special first ++ escapeWith special second := by
  induction first with
  | nil => rfl
  | cons c rest inductionHypothesis =>
      by_cases isSpecial : special c = true <;> simp [escapeWith, isSpecial, inductionHypothesis]

end FacetedSearch.Query
