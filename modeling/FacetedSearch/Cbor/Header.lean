import FacetedSearch.Bytes

/-!
Headers of binary items.

Every item starts with a header: one byte with the kind of item and either a small number, the width
of the number behind it, or a mark for an open length.  Numbers are written in the narrowest width
and read in any.
-/

namespace FacetedSearch.Cbor

/-- Why a byte string holds no item of the kind wanted. -/
inductive Fault where
  /-- The item at an offset is none that the format knows. -/
  | malformed (offset : Nat)
  /-- The bytes end within an item. -/
  | truncated
  /-- An item is not what is wanted in its place. -/
  | mismatched
  /-- Maps, arrays and tags nest too deep. -/
  | tooDeep
deriving DecidableEq

/-- The bytes still to be read, and how many were read before them. -/
structure Input where
  bytes : List UInt8
  offset : Nat
deriving DecidableEq

/-- The kinds of headers.  A length is absent when it is open. -/
inductive Header where
  | positive (value : Nat)
  | negative (value : Nat)
  | bytes (length : Option Nat)
  | text (length : Option Nat)
  | array (length : Option Nat)
  | map (length : Option Nat)
  | tag (value : Nat)
  | simple (value : Nat)
  | float
  | stop
deriving DecidableEq

/-- The number of bytes behind the first byte of a header with a number. -/
def widthOf (number : Nat) : Nat :=
  if number < 24 then 0
  else if number < 0x100 then 1
  else if number < 0x10000 then 2
  else if number < 0x100000000 then 4
  else 8

/-- The lower five bits of the first byte of a header whose number has a width. -/
def widthMark : Nat → Nat
  | 1 => 24
  | 2 => 25
  | 4 => 26
  | _ => 27

/-- The kind of natural numbers, in the upper three bits of a first byte. -/
def wordKind : Nat :=
  0

def textKind : Nat :=
  3

def arrayKind : Nat :=
  4

def mapKind : Nat :=
  5

/-- The header of a kind with a number, in the narrowest width. -/
def writeHeader (kind number : Nat) : List UInt8 :=
  let width := widthOf number
  if width = 0 then [UInt8.ofNat (kind * 0x20 + number)]
  else UInt8.ofNat (kind * 0x20 + widthMark width) :: Bytes.write width number

/-- The size of the narrowest header of a length, where an open length takes one byte. -/
def headerSize : Option Nat → Nat
  | some number => widthOf number + 1
  | none => 1

def Input.take (input : Input) (count : Nat) : Except Fault (List UInt8 × Input) :=
  let taken := input.bytes.take count
  if taken.length = count then
    .ok (taken, ⟨input.bytes.drop count, input.offset + count⟩)
  else .error .truncated

/-- The number behind the first byte of a header. -/
inductive Argument where
  | number (value : Nat)
  | wide (width value : Nat)
  | absent
deriving DecidableEq

def Argument.value? : Argument → Option Nat
  | .number value => some value
  | .wide _ value => some value
  | .absent => none

/-- Reads the argument that the lower five bits of a first byte announce. -/
def Input.argument (input : Input) (start : Nat) (mark : Nat) :
    Except Fault (Argument × Input) :=
  let wide (width : Nat) : Except Fault (Argument × Input) := do
    let (bytes, input) ← input.take width
    return (.wide width (Bytes.read bytes), input)
  if mark < 24 then .ok (.number mark, input)
  else if mark = 24 then wide 1
  else if mark = 25 then wide 2
  else if mark = 26 then wide 4
  else if mark = 27 then wide 8
  else if mark = 31 then .ok (.absent, input)
  else .error (.malformed start)

/-- The header of the last kind, which holds simple values, floating-point numbers and the stop. -/
def specialHeader : Argument → Header
  | .number value => .simple value
  | .wide 1 value => .simple value
  | .wide _ _ => .float
  | .absent => .stop

/-- A header that has to have a number. -/
def numbered (start : Nat) (header : Nat → Header) (argument : Argument) : Except Fault Header :=
  match argument.value? with
  | some value => .ok (header value)
  | none => .error (.malformed start)

def headerOf (start kind : Nat) (argument : Argument) : Except Fault Header :=
  match kind with
  | 0 => numbered start .positive argument
  | 1 => numbered start .negative argument
  | 2 => .ok (.bytes argument.value?)
  | 3 => .ok (.text argument.value?)
  | 4 => .ok (.array argument.value?)
  | 5 => .ok (.map argument.value?)
  | 6 => numbered start .tag argument
  | _ => .ok (specialHeader argument)

def Input.header (input : Input) : Except Fault (Header × Input) := do
  let (first, rest) ← input.take 1
  let byte := Bytes.read first
  let (argument, rest) ← rest.argument input.offset (byte % 0x20)
  let header ← headerOf input.offset (byte / 0x20) argument
  return (header, rest)

end FacetedSearch.Cbor
