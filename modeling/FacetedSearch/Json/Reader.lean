import FacetedSearch.Json.Document

/-!
Reading JSON texts.

Blanks are spaces, tabs and line ends.  Nothing may follow the document but blanks.  Texts hold no
raw control characters.  Numbers and nesting are not limited here: what a document is read as
decides about them.
-/

namespace FacetedSearch.Json

/-- Whether a character may stand between the parts of a document. -/
def isSpace (c : Char) : Bool :=
  c == ' ' || c == '\t' || c == '\n' || c == '\r'

def skipSpace (text : List Char) : List Char :=
  text.dropWhile isSpace

/-- A piece of a quoted text: a character, or an escape that names a 16-bit unit. -/
inductive Piece where
  | char (c : Char)
  | unit (value : Nat)
deriving DecidableEq

/-- The character that a letter behind a backslash stands for. -/
def unescape? (letter : Char) : Option Char :=
  if letter = '"' then some '"'
  else if letter = '\\' then some '\\'
  else if letter = '/' then some '/'
  else if letter = 'b' then some '\x08'
  else if letter = 'f' then some '\x0c'
  else if letter = 'n' then some '\n'
  else if letter = 'r' then some '\r'
  else if letter = 't' then some '\t'
  else none

/-- The unit that four hexadecimal digits name. -/
def unitOf? (c0 c1 c2 c3 : Char) : Option Nat := do
  let d0 ← Text.hexValue? c0
  let d1 ← Text.hexValue? c1
  let d2 ← Text.hexValue? c2
  let d3 ← Text.hexValue? c3
  return ((d0 * 16 + d1) * 16 + d2) * 16 + d3

/-- The pieces of a quoted text up to its closing quote, and the text after it. -/
def readPieces? : List Char → Option (List Piece × List Char)
  | [] => none
  | '"' :: rest => some ([], rest)
  | '\\' :: 'u' :: c0 :: c1 :: c2 :: c3 :: rest => do
      let value ← unitOf? c0 c1 c2 c3
      let (pieces, rest) ← readPieces? rest
      return (.unit value :: pieces, rest)
  | '\\' :: letter :: rest => do
      let c ← unescape? letter
      let (pieces, rest) ← readPieces? rest
      return (.char c :: pieces, rest)
  | c :: rest =>
      if c.toNat < 0x20 ∨ c = '\\' then none
      else (readPieces? rest).map fun (pieces, rest) => (.char c :: pieces, rest)

/-- Whether a unit is the first half of a surrogate pair. -/
def isHighSurrogate (unit : Nat) : Bool :=
  decide (0xD800 ≤ unit) && decide (unit < 0xDC00)

/-- Whether a unit is the second half of a surrogate pair. -/
def isLowSurrogate (unit : Nat) : Bool :=
  decide (0xDC00 ≤ unit) && decide (unit < 0xE000)

def pairedChar (high low : Nat) : Char :=
  Char.ofNat (0x10000 + (high - 0xD800) * 0x400 + (low - 0xDC00))

/-- The characters of the pieces; there are none for half of a surrogate pair. -/
def charsOfPieces? : List Piece → Option (List Char)
  | [] => some []
  | .char c :: rest => (charsOfPieces? rest).map (c :: ·)
  | .unit high :: .unit low :: rest =>
      if isHighSurrogate high then
        if isLowSurrogate low then (charsOfPieces? rest).map (pairedChar high low :: ·) else none
      else if isLowSurrogate high then none
      else (charsOfPieces? (.unit low :: rest)).map (Char.ofNat high :: ·)
  | .unit unit :: rest =>
      if isHighSurrogate unit || isLowSurrogate unit then none
      else (charsOfPieces? rest).map (Char.ofNat unit :: ·)

/-- A text behind its opening quote: its characters, if its escapes name any, and what follows. -/
def readQuoted? (text : List Char) : Option (Option String × List Char) :=
  (readPieces? text).map fun (pieces, rest) => ((charsOfPieces? pieces).map String.ofList, rest)

def documentOfText : Option String → Document
  | some text => .string text
  | none => .unreadable

/-- Members read so far, with keys that may be unreadable. -/
def documentOfMembers (members : List (Option String × Document)) : Document :=
  match members.mapM fun member => member.1.map fun key => (key, member.2) with
  | some members => .object members
  | none => .unreadable

/-- The word that a text starts with, as a document. -/
def readWord? : List Char → Option (Document × List Char)
  | 'n' :: 'u' :: 'l' :: 'l' :: rest => some (.null, rest)
  | 't' :: 'r' :: 'u' :: 'e' :: rest => some (.bool true, rest)
  | 'f' :: 'a' :: 'l' :: 's' :: 'e' :: rest => some (.bool false, rest)
  | _ => none

/-- A key with the colon behind it. -/
def readKey? (text : List Char) : Option (Option String × List Char) :=
  match skipSpace text with
  | '"' :: rest => do
      let (key, rest) ← readQuoted? rest
      match skipSpace rest with
      | ':' :: rest => some (key, rest)
      | _ => none
  | _ => none

mutual

/-- Reads the document that a text starts with; no document takes more steps than characters. -/
def readValue? : (fuel : Nat) → List Char → Option (Document × List Char)
  | 0, _ => none
  | fuel + 1, text =>
      match skipSpace text with
      | '[' :: rest =>
          match skipSpace rest with
          | ']' :: rest => some (.array [], rest)
          | _ => (readItems? fuel rest).map fun (items, rest) => (.array items, rest)
      | '\x7b' :: rest =>
          match skipSpace rest with
          | '\x7d' :: rest => some (.object [], rest)
          | _ => (readMembers? fuel rest).map fun (members, rest) =>
              (documentOfMembers members, rest)
      | '"' :: rest => (readQuoted? rest).map fun (text, rest) => (documentOfText text, rest)
      | rest =>
          (readWord? rest).or
            ((Numeral.read? rest).map fun (numeral, rest) => (.number numeral, rest))

/-- Reads items up to the closing bracket; there has to be one. -/
def readItems? : (fuel : Nat) → List Char → Option (List Document × List Char)
  | 0, _ => none
  | fuel + 1, text => do
      let (item, rest) ← readValue? fuel text
      match skipSpace rest with
      | ',' :: rest =>
          let (items, rest) ← readItems? fuel rest
          return (item :: items, rest)
      | ']' :: rest => return ([item], rest)
      | _ => none

/-- Reads members up to the closing brace; there has to be one. -/
def readMembers? : (fuel : Nat) → List Char →
    Option (List (Option String × Document) × List Char)
  | 0, _ => none
  | fuel + 1, text => do
      let (key, rest) ← readKey? text
      let (value, rest) ← readValue? fuel rest
      match skipSpace rest with
      | ',' :: rest =>
          let (members, rest) ← readMembers? fuel rest
          return ((key, value) :: members, rest)
      | '\x7d' :: rest => return ([(key, value)], rest)
      | _ => none

end

/-- The document that a text consists of. -/
def Document.read? (text : String) : Option Document :=
  let chars := text.toList
  match readValue? (chars.length + 1) chars with
  | some (document, rest) => if (skipSpace rest).isEmpty then some document else none
  | none => none

end FacetedSearch.Json
