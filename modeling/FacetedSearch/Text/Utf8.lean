/-!
Texts as bytes in UTF-8.

A character takes one to four bytes, and the first byte tells how many.  Only the shortest form of
each character is read: no longer forms, no surrogates, and nothing beyond the last code point.
`split` reads as many characters as there are at the front of a byte string.
-/

namespace FacetedSearch.Utf8

def encodeChar (c : Char) : List UInt8 :=
  String.utf8EncodeChar c

def encode (text : List Char) : List UInt8 :=
  text.flatMap encodeChar

def isContinuation (byte : UInt8) : Bool :=
  0x80 ≤ byte && byte ≤ 0xBF

/-- The bytes that may follow a first byte of three; longer forms and surrogates are barred. -/
def secondOfThree (first second : UInt8) : Bool :=
  if first = 0xE0 then 0xA0 ≤ second && second ≤ 0xBF
  else if first = 0xED then 0x80 ≤ second && second ≤ 0x9F
  else isContinuation second

/-- The bytes that may follow a first byte of four, where longer forms and all beyond the last code
point are barred. -/
def secondOfFour (first second : UInt8) : Bool :=
  if first = 0xF0 then 0x90 ≤ second && second ≤ 0xBF
  else if first = 0xF4 then 0x80 ≤ second && second ≤ 0x8F
  else isContinuation second

/-- The six bits that a continuation byte carries. -/
def payload (byte : UInt8) : Nat :=
  byte.toNat % 0x40

def charOfTwo? (first : UInt8) : List UInt8 → Option (Char × List UInt8)
  | b1 :: rest =>
      if isContinuation b1 then
        some (Char.ofNat (first.toNat % 0x20 * 0x40 + payload b1), rest)
      else none
  | [] => none

def charOfThree? (first : UInt8) : List UInt8 → Option (Char × List UInt8)
  | b1 :: b2 :: rest =>
      if secondOfThree first b1 && isContinuation b2 then
        some (Char.ofNat (first.toNat % 0x10 * 0x1000 + payload b1 * 0x40 + payload b2), rest)
      else none
  | _ => none

def charOfFour? (first : UInt8) : List UInt8 → Option (Char × List UInt8)
  | b1 :: b2 :: b3 :: rest =>
      if secondOfFour first b1 && isContinuation b2 && isContinuation b3 then
        some (Char.ofNat (first.toNat % 0x08 * 0x40000 + payload b1 * 0x1000 + payload b2 * 0x40 +
          payload b3), rest)
      else none
  | _ => none

/-- The character that a byte string starts with, and the bytes after it. -/
def char? : List UInt8 → Option (Char × List UInt8)
  | [] => none
  | first :: rest =>
      if first < 0x80 then some (Char.ofNat first.toNat, rest)
      else if 0xC2 ≤ first ∧ first ≤ 0xDF then charOfTwo? first rest
      else if 0xE0 ≤ first ∧ first ≤ 0xEF then charOfThree? first rest
      else if 0xF0 ≤ first ∧ first ≤ 0xF4 then charOfFour? first rest
      else none

/-- Splits off at most `count` characters. -/
def splitWith : (count : Nat) → List UInt8 → List Char × List UInt8
  | 0, bytes => ([], bytes)
  | count + 1, bytes =>
      match char? bytes with
      | some (c, rest) => (c :: (splitWith count rest).1, (splitWith count rest).2)
      | none => ([], bytes)

/-- The characters that a byte string starts with, up to the first byte that belongs to none, and
the bytes from there on. -/
def split (bytes : List UInt8) : List Char × List UInt8 :=
  splitWith bytes.length bytes

def decode? (bytes : List UInt8) : Option (List Char) :=
  match split bytes with
  | (text, []) => some text
  | _ => none

end FacetedSearch.Utf8
