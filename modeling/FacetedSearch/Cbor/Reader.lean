import FacetedSearch.Cbor.Header
import FacetedSearch.Table
import FacetedSearch.Text.Utf8

/-!
Reading binary items of a kind that is known beforehand.

Tags in front of an item that is wanted are passed over.  Texts and byte strings may come in
segments, and arrays and maps may have an open length.  Content is taken in chunks, so a fault in it
is found before the end of the input only if it lies in a chunk that is complete.

A text that is no UTF-8 is reported where its header would start if it had the narrowest width.
-/

namespace FacetedSearch.Cbor

/-- The bytes that are taken in one chunk. -/
def chunkSize : Nat :=
  4096

/-- The bytes of a large number that are taken in one chunk. -/
def numberChunkSize : Nat :=
  16

/-- What was delivered before the end or before a fault. -/
abbrev Delivery (Item : Type) :=
  List Item × Except Fault Input

/-- Puts items in front of a delivery. -/
def Delivery.after {Item : Type} (items : List Item) (delivery : Delivery Item) : Delivery Item :=
  (items ++ delivery.1, delivery.2)

/-- All items of a delivery, unless there was a fault. -/
def Delivery.complete {Item : Type} (delivery : Delivery Item) :
    Except Fault (List Item × Input) :=
  match delivery.2 with
  | .ok input => .ok (delivery.1, input)
  | .error fault => .error fault

/-- Takes bytes in chunks of a given size.  Every chunk takes a byte of the input. -/
def byteChunks (size : Nat) : (fuel : Nat) → (unread : Nat) → Input → Delivery UInt8
  | 0, _, _ => ([], .error .truncated)
  | fuel + 1, unread, input =>
      if unread = 0 then ([], .ok input)
      else
        match input.take (min size unread) with
        | .error fault => ([], .error fault)
        | .ok (bytes, input) => (byteChunks size fuel (unread - min size unread) input).after bytes

/-- Takes characters in chunks.  Up to three bytes at the end of a chunk that make no character are
carried over to the next one.  Every chunk takes a byte of the input. -/
def textChunks (place : Nat) :
    (fuel : Nat) → (carried : List UInt8) → (unread : Nat) → Input → Delivery Char
  | 0, _, _, _ => ([], .error .truncated)
  | fuel + 1, carried, unread, input =>
      if unread = 0 then
        if carried.isEmpty then ([], .ok input) else ([], .error (.malformed place))
      else
        let count := min (chunkSize - carried.length) unread
        match input.take count with
        | .error fault => ([], .error fault)
        | .ok (bytes, input) =>
            let (text, tail) := Utf8.split (carried ++ bytes)
            if 3 < tail.length then ([], .error (.malformed place))
            else (textChunks place fuel tail (unread - count) input).after text

/-- A kind of content that may come in segments. -/
structure Content (Item : Type) where
  /-- The length in a header of this kind, which may be open. -/
  length? : Header → Option (Option Nat)
  /-- Reads the content of a given length.  A fault in it is reported at `place`. -/
  read : (place length : Nat) → Input → Delivery Item

def textContent : Content Char where
  length?
    | .text length => some length
    | _ => none
  read place length input := textChunks place (input.bytes.length + 1) [] length input

/-- Byte strings in chunks of a given size. -/
def byteContent (size : Nat) : Content UInt8 where
  length?
    | .bytes length => some length
    | _ => none
  read _ length input := byteChunks size (input.bytes.length + 1) length input

/-- Reads segments up to the stop that closes the outermost of `nested` open lengths.  Every
segment takes a byte of the input. -/
def segments {Item : Type} (content : Content Item) :
    (fuel : Nat) → (nested : Nat) → Input → Delivery Item
  | 0, _, _ => ([], .error .truncated)
  | fuel + 1, nested, input =>
      match input.header with
      | .error fault => ([], .error fault)
      | .ok (.stop, rest) =>
          if nested ≤ 1 then ([], .ok rest) else segments content fuel (nested - 1) rest
      | .ok (header, rest) =>
          match content.length? header with
          | none => ([], .error (.malformed input.offset))
          | some none => segments content fuel (nested + 1) rest
          | some (some length) =>
              match content.read input.offset length rest with
              | (items, .ok rest) => (segments content fuel nested rest).after items
              | (items, .error fault) => (items, .error fault)

/-- Reads the content behind a header with a length. -/
def readContent {Item : Type} (content : Content Item) (length : Option Nat) (input : Input) :
    Delivery Item :=
  match length with
  | some count => content.read (input.offset - headerSize length) count input
  | none => segments content (input.bytes.length + 1) 1 input

/-- A header behind any number of tags, the place where it starts, and whether there was a tag. -/
structure Untagged where
  header : Header
  start : Nat
  hadTag : Bool
  rest : Input

/-- Reads a header behind any number of tags.  Every tag takes a byte of the input. -/
def untaggedWith : (fuel : Nat) → (hadTag : Bool) → Input → Except Fault Untagged
  | 0, _, _ => .error .truncated
  | fuel + 1, hadTag, input =>
      match input.header with
      | .error fault => .error fault
      | .ok (.tag _, rest) => untaggedWith fuel true rest
      | .ok (header, rest) => .ok ⟨header, input.offset, hadTag, rest⟩

def Input.untagged (input : Input) : Except Fault Untagged :=
  untaggedWith (input.bytes.length + 1) false input

def Input.text (input : Input) : Except Fault (String × Input) := do
  let found ← input.untagged
  match found.header with
  | .text length =>
      let (text, rest) ← (readContent textContent length found.rest).complete
      return (String.ofList text, rest)
  | _ => .error .mismatched

/-- Where a name is reported when it is no UTF-8.  In a map of open length the first header of a
name has been looked at before and counts with its narrowest width. -/
def namePlace (isOpen : Bool) (found : Untagged) (length : Nat) : Nat :=
  if isOpen && !found.hadTag then found.rest.offset - headerSize (some length) else found.start

/-- Reads the bytes of a name, which is a text or a byte string of one chunk at most. -/
def Input.name (input : Input) (isOpen : Bool) : Except Fault (List UInt8 × Input) := do
  let found ← input.untagged
  match found.header with
  | .text (some length) =>
      if chunkSize < length then .error .mismatched
      else
        let (bytes, rest) ← found.rest.take length
        if (Utf8.decode? bytes).isSome then return (bytes, rest)
        else .error (.malformed (namePlace isOpen found length))
  | .bytes (some length) =>
      if chunkSize < length then .error .mismatched else found.rest.take length
  | _ => .error .mismatched

/-- Reads the entries of a container, of which `remaining` are left, or those up to the stop when
the length is open.  Every entry takes a byte of the input. -/
def entries {State : Type} (step : State → Input → Except Fault (State × Input)) :
    (fuel : Nat) → (remaining : Option Nat) → State → Input → Except Fault (State × Input)
  | 0, _, _, _ => .error .truncated
  | _ + 1, some 0, state, input => .ok (state, input)
  | fuel + 1, some (remaining + 1), state, input => do
      let (state, input) ← step state input
      entries step fuel (some remaining) state input
  | fuel + 1, none, state, input =>
      match input.header with
      | .error fault => .error fault
      | .ok (.stop, rest) => .ok (state, rest)
      | .ok _ => do
          let (state, input) ← step state input
          entries step fuel none state input

def readEntries {State : Type} (step : State → Input → Except Fault (State × Input))
    (length : Option Nat) (state : State) (input : Input) : Except Fault (State × Input) :=
  entries step (input.bytes.length + 1) length state input

/-- Reads a list of texts.  A byte string counts as a list of numbers, so only the empty one is a
list of texts. -/
def Input.texts (input : Input) : Except Fault (List String × Input) := do
  let found ← input.untagged
  match found.header with
  | .array length =>
      let step (texts : List String) (input : Input) : Except Fault (List String × Input) := do
        let (text, input) ← input.text
        return (text :: texts, input)
      let (texts, rest) ← readEntries step length [] found.rest
      return (texts.reverse, rest)
  | .bytes length =>
      let (bytes, rest) ← (readContent (byteContent chunkSize) length found.rest).complete
      if bytes.isEmpty then return ([], rest) else .error .mismatched
  | _ => .error .mismatched

def Input.textLists (input : Input) : Except Fault (Table (List String) × Input) := do
  let found ← input.untagged
  match found.header with
  | .map length =>
      let step (table : Table (List String)) (input : Input) :
          Except Fault (Table (List String) × Input) := do
        let (key, input) ← input.text
        let (texts, input) ← input.texts
        return (table.set key texts, input)
      readEntries step length .empty found.rest
  | _ => .error .mismatched

/-- The tag of a natural number that is written as a byte string. -/
def largeNumberTag : Nat :=
  2

/-- The tag of a negative number that is written as a byte string. -/
def largeNegativeTag : Nat :=
  3

/-- Reads the byte string of a large number.  Zeros in front do not count, and at most sixteen bytes
do. -/
def Input.largeNumber (input : Input) : Except Fault (Nat × Input) := do
  let (header, rest) ← input.header
  match header with
  | .bytes length =>
      let (bytes, outcome) := readContent (byteContent numberChunkSize) length rest
      let significant := bytes.dropWhile (· == 0)
      if 16 < significant.length then .error .mismatched
      else
        let rest ← outcome
        return (Bytes.read significant, rest)
  | _ => .error .mismatched

/-- Reads an integer, as its sign and the number behind it.  Tags other than those of large numbers
are passed over, and every tag takes a byte of the input. -/
def integerWith : (fuel : Nat) → Input → Except Fault (Bool × Nat × Input)
  | 0, _ => .error .truncated
  | fuel + 1, input => do
      let (header, rest) ← input.header
      match header with
      | .positive value => return (false, value, rest)
      | .negative value => return (true, value, rest)
      | .tag value =>
          if value = largeNumberTag then
            let (number, rest) ← rest.largeNumber
            return (false, number, rest)
          else if value = largeNegativeTag then
            let (number, rest) ← rest.largeNumber
            return (true, number, rest)
          else integerWith fuel rest
      | _ => .error .mismatched

/-- Reads a natural number of 64 bits. -/
def Input.word (input : Input) : Except Fault (UInt64 × Input) := do
  let (isNegative, number, rest) ← integerWith (input.bytes.length + 1) input
  if isNegative ∨ UInt64.size ≤ number then .error .mismatched
  else return (UInt64.ofNat number, rest)

/-- Whether a simple value is known: the truth values, null and the undefined value. -/
def isKnownSimple (value : Nat) : Bool :=
  decide (20 ≤ value) && decide (value ≤ 23)

/-- Reads a pair of items where one is read by `skip`. -/
def skipPair (skip : Input → Except Fault Input) (_ : Unit) (input : Input) :
    Except Fault (Unit × Input) := do
  let input ← skip input
  let input ← skip input
  return ((), input)

/-- Reads one item by `skip`. -/
def skipOne (skip : Input → Except Fault Input) (_ : Unit) (input : Input) :
    Except Fault (Unit × Input) := do
  let input ← skip input
  return ((), input)

/-- Whether a tag and the header behind it make a large number: the byte string is no longer than
the bytes that may count, and comes in one piece. -/
def startsLargeNumber (tag : Nat) (next : Header) : Bool :=
  (tag == largeNumberTag || tag == largeNegativeTag) &&
    match next with
    | .bytes (some length) => decide (length ≤ numberChunkSize)
    | _ => false

/-- The least number that is too large behind the tag of negative numbers. -/
def negativeLimit : Nat :=
  0x80000000000000000000000000000000

/-- Passes over the byte string of a large number.  A negative one must not be too large. -/
def Input.skipLargeNumber (input : Input) (tag : Nat) : Except Fault Input := do
  let (number, rest) ← input.largeNumber
  if tag = largeNegativeTag ∧ negativeLimit ≤ number then .error .mismatched else return rest

/-- Passes over an item of any kind, in which containers and tags may nest `depth` deep, where the
tag of a large number does not count.  What follows a tag is looked at before the depth is.  Every
level takes a byte of the input. -/
def skipWith : (fuel depth : Nat) → Input → Except Fault Input
  | 0, _, _ => .error .truncated
  | fuel + 1, depth, input => do
      let (header, rest) ← input.header
      match header with
      | .positive _ => return rest
      | .negative _ => return rest
      | .float => return rest
      | .bytes length =>
          let (_, rest) ← (readContent (byteContent chunkSize) length rest).complete
          return rest
      | .text length =>
          let (_, rest) ← (readContent textContent length rest).complete
          return rest
      | .array length =>
          if depth = 0 then .error .tooDeep
          else
            let (_, rest) ← readEntries (skipOne (skipWith fuel (depth - 1))) length () rest
            return rest
      | .map length =>
          if depth = 0 then .error .tooDeep
          else
            let (_, rest) ← readEntries (skipPair (skipWith fuel (depth - 1))) length () rest
            return rest
      | .tag tag => do
          let (next, _) ← rest.header
          if startsLargeNumber tag next then rest.skipLargeNumber tag
          else if depth = 0 then .error .tooDeep
          else skipWith fuel (depth - 1) rest
      | .simple value => if isKnownSimple value then return rest else .error .mismatched
      | .stop => .error .mismatched

def Input.skip (input : Input) (depth : Nat) : Except Fault Input :=
  skipWith (input.bytes.length + 1) depth input

end FacetedSearch.Cbor
