/-!
Bytes as text in base 64, with the alphabet that is safe in addresses and without padding.

Three bytes make four symbols; one or two bytes at the end make two or three symbols, whose unused
bits are zero.  Decoding names the symbol at fault.
-/

namespace FacetedSearch.Base64Url

/-- The symbols in the order of their values. -/
def alphabet : List Char :=
  "ABCDEFGHIJKLMNOPQRSTUVWXYZabcdefghijklmnopqrstuvwxyz0123456789-_".toList

def symbol (value : Nat) : Char :=
  alphabet.getD value 'A'

def encode : List UInt8 → List Char
  | [] => []
  | [b0] =>
      let n := b0.toNat * 0x10
      [symbol (n / 0x40), symbol (n % 0x40)]
  | [b0, b1] =>
      let n := (b0.toNat * 0x100 + b1.toNat) * 0x4
      [symbol (n / 0x1000), symbol (n / 0x40 % 0x40), symbol (n % 0x40)]
  | b0 :: b1 :: b2 :: rest =>
      let n := (b0.toNat * 0x100 + b1.toNat) * 0x100 + b2.toNat
      symbol (n / 0x40000) :: symbol (n / 0x1000 % 0x40) :: symbol (n / 0x40 % 0x40) ::
        symbol (n % 0x40) :: encode rest

/-- Why a text is no base 64. -/
inductive Fault where
  /-- A byte that is no symbol. -/
  | invalidSymbol (byte : UInt8) (offset : Nat)
  /-- A single symbol is left over at the end. -/
  | invalidLength (length : Nat)
  /-- The last symbol has bits that belong to no byte. -/
  | invalidLastSymbol (byte : UInt8) (offset : Nat)
deriving DecidableEq

def Fault.message : Fault → String
  | .invalidSymbol byte offset =>
      "Invalid symbol " ++ toString byte.toNat ++ ", offset " ++ toString offset ++ "."
  | .invalidLength length => "Invalid input length: " ++ toString length
  | .invalidLastSymbol byte offset =>
      "Invalid last symbol " ++ toString byte.toNat ++ ", offset " ++ toString offset ++ "."

def value? (byte : UInt8) : Option Nat :=
  let n := byte.toNat
  if 65 ≤ n ∧ n ≤ 90 then some (n - 65)
  else if 97 ≤ n ∧ n ≤ 122 then some (n - 97 + 26)
  else if 48 ≤ n ∧ n ≤ 57 then some (n - 48 + 52)
  else if n = 45 then some 62
  else if n = 95 then some 63
  else none

/-- The values of the symbols from an offset on, up to the first byte that is no symbol. -/
def values (offset : Nat) : List UInt8 → Except Fault (List Nat)
  | [] => .ok []
  | byte :: rest =>
      match value? byte with
      | none => .error (.invalidSymbol byte offset)
      | some value =>
          match values (offset + 1) rest with
          | .ok rest => .ok (value :: rest)
          | .error fault => .error fault

/-- The padding symbol, which has no place in the text itself. -/
def padding : UInt8 :=
  61

/-- A single byte that is left over behind whole groups of four and is neither a symbol nor padding:
most likely something that was not meant to be there, and named before anything else. -/
def strayEnd? (text : List UInt8) : Option Fault :=
  match text.getLast? with
  | some byte =>
      if text.length % 4 = 1 ∧ byte ≠ padding ∧ (value? byte).isNone then
        some (.invalidSymbol byte (text.length - 1))
      else none
  | none => none

/-- The bytes of the values of all symbols.  `last` is the last byte of the text, and the text from
`offset` on is still to be decoded. -/
def bytesOf (last : UInt8) (offset : Nat) : List Nat → Except Fault (List UInt8)
  | [] => .ok []
  | [_] => .error (.invalidLength (offset + 1))
  | [v0, v1] =>
      if v1 % 0x10 = 0 then .ok [UInt8.ofNat (v0 * 4 + v1 / 0x10)]
      else .error (.invalidLastSymbol last (offset + 1))
  | [v0, v1, v2] =>
      if v2 % 0x4 = 0 then
        .ok [UInt8.ofNat (v0 * 4 + v1 / 0x10), UInt8.ofNat (v1 % 0x10 * 0x10 + v2 / 0x4)]
      else .error (.invalidLastSymbol last (offset + 2))
  | v0 :: v1 :: v2 :: v3 :: rest =>
      match bytesOf last (offset + 4) rest with
      | .ok rest =>
          .ok (UInt8.ofNat (v0 * 4 + v1 / 0x10) :: UInt8.ofNat (v1 % 0x10 * 0x10 + v2 / 0x4) ::
            UInt8.ofNat (v2 % 0x4 * 0x40 + v3) :: rest)
      | .error fault => .error fault

def decode (text : List UInt8) : Except Fault (List UInt8) :=
  match strayEnd? text with
  | some fault => .error fault
  | none =>
      match values 0 text with
      | .ok values => bytesOf (text.getLast?.getD 0) 0 values
      | .error fault => .error fault

end FacetedSearch.Base64Url
