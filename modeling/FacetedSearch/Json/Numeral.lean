import FacetedSearch.Decimal.Shortest
import FacetedSearch.Saturating

/-!
JSON numbers: how they are written, and what they stand for.

A `Numeral` is a number as it is written.  A `Number` is what it stands for: a natural number or a
negative integer of 64 bits, or else a floating-point number.

A floating-point number is made from as many leading digits as fit a word, scaled by a power of
ten; the digits behind them count only by their number.  A numeral whose value is out of range
stands for nothing.
-/

namespace FacetedSearch.Json

open Decimal

structure Exponent where
  isNegative : Bool
  digits : List Digit
deriving DecidableEq

/-- A number as it is written.  Without a fraction there is no point. -/
structure Numeral where
  isNegative : Bool
  whole : List Digit
  fraction : List Digit
  exponent : Option Exponent
deriving DecidableEq

/-- What a numeral stands for. -/
inductive Number where
  | natural (value : UInt64)
  | negative (value : Int64)
  | real (value : Float)

/-- Appends digits to a number as long as it fits a word, and returns the digits left over. -/
def takeFitting (number : Nat) : List Digit → Nat × List Digit
  | [] => (number, [])
  | d :: rest =>
      if number * 10 + d.val ≤ Saturating.top then takeFitting (number * 10 + d.val) rest
      else (number, d :: rest)

/-- The largest power of ten among the floating-point numbers. -/
def largestPower : Nat :=
  308

/-- The power of ten with an exponent, as a floating-point number. -/
def powerOfTen (exponent : Nat) : Float :=
  Float.ofScientific 1 false exponent

/-- Divides a number by a power of ten.  What is left of a word after two divisions by the largest
power is zero. -/
def scaleDown (number : Float) (exponent : Nat) : Float :=
  if exponent ≤ largestPower then number / powerOfTen exponent
  else if exponent ≤ 2 * largestPower then
    number / powerOfTen largestPower / powerOfTen (exponent - largestPower)
  else 0.0

/-- Multiplies a number by a power of ten, unless the product is out of range. -/
def scaleUp? (number : Float) (exponent : Nat) : Option Float :=
  if exponent ≤ largestPower then
    let product := number * powerOfTen exponent
    if product.isInf then none else some product
  else none

/-- The floating-point number `significand * 10 ^ exponent`. -/
def scale? (significand : Nat) (exponent : Int) : Option Float :=
  let number := (UInt64.ofNat significand).toFloat
  if significand = 0 then some number
  else if 0 ≤ exponent then scaleUp? number exponent.toNat
  else some (scaleDown number (-exponent).toNat)

/-- The largest exponent that is taken by its value. -/
def largestExponent : Nat :=
  0x7FFFFFFF

/-- The magnitude of a numeral as a floating-point number, given its leading digits, their
exponent, and the exponent written. -/
def magnitude? (significand : Nat) (places : Int) : Option Exponent → Option Float
  | none => scale? significand places
  | some exponent =>
      let value := Decimal.value exponent.digits
      if value ≤ largestExponent then
        scale? significand (if exponent.isNegative then places - value else places + value)
      else if exponent.isNegative ∨ significand = 0 then some 0.0
      else none

/-- Puts a sign on a magnitude. -/
def signed (isNegative : Bool) (magnitude : Float) : Float :=
  if isNegative then -magnitude else magnitude

/-- The highest bit of a word, which is the sign where a word has one. -/
def signBit : Nat :=
  0x8000000000000000

/-- What an integer that fits a word stands for.  A negative zero is no integer, and neither is a
negative number below the least one of 64 bits. -/
def ofInteger (isNegative : Bool) (magnitude : Nat) : Number :=
  if isNegative then
    if 1 ≤ magnitude ∧ magnitude ≤ signBit then .negative (Int64.ofInt (-(magnitude : Int)))
    else .real (-(UInt64.ofNat magnitude).toFloat)
  else .natural (UInt64.ofNat magnitude)

/-- What a numeral stands for, unless it is out of range. -/
def Numeral.number? (numeral : Numeral) : Option Number :=
  match takeFitting 0 numeral.whole, numeral.fraction, numeral.exponent with
  | (magnitude, []), [], none => some (ofInteger numeral.isNegative magnitude)
  | (leading, dropped), fraction, exponent =>
      let (significand, unread) := takeFitting leading fraction
      let places : Int := (dropped.length : Int) - ((fraction.length : Int) - unread.length)
      (magnitude? significand places exponent).map fun magnitude =>
        .real (signed numeral.isNegative magnitude)

def Numeral.ofNat (n : Nat) : Numeral :=
  ⟨false, digits n, [], none⟩

def Numeral.ofInt (n : Int) : Numeral :=
  ⟨decide (n < 0), digits n.natAbs, [], none⟩

/-- The exponents of the leading digit that are written without an exponent. -/
def isPlain (exponent : Int) : Bool :=
  decide (-5 ≤ exponent) && decide (exponent ≤ 15)

/-- Lays out `0.ddd * 10 ^ (exponent + 1)`: without an exponent there is always a fraction, and
with one the digit before the point is the leading digit. -/
def layOut (isNegative : Bool) (ds : List Digit) (exponent : Int) : Numeral :=
  if isPlain exponent then
    if 0 ≤ exponent then
      let whole := exponent.toNat + 1
      let padded := ds ++ List.replicate (whole + 1 - ds.length) 0
      ⟨isNegative, padded.take whole, padded.drop whole, none⟩
    else ⟨isNegative, [0], List.replicate ((-exponent).toNat - 1) 0 ++ ds, none⟩
  else
    ⟨isNegative, ds.take 1, ds.drop 1,
      some ⟨decide (exponent < 0), digits exponent.natAbs⟩⟩

/-- The shortest numeral for a finite floating-point number. -/
def Numeral.ofFloat (number : Float) : Numeral :=
  let bits := number.toBits
  let isNegative := decide (signBit ≤ bits.toNat)
  let binary := Binary.ofBits bits
  if binary.significand = 0 then ⟨isNegative, [0], [0], none⟩
  else
    let decimal := binary.shortest
    let ds := digits decimal.number
    layOut isNegative ds (decimal.exponent + ds.length - 1)

def Number.numeral : Number → Numeral
  | .natural value => .ofNat value.toNat
  | .negative value => .ofInt value.toInt
  | .real value => .ofFloat value

def Exponent.write (exponent : Exponent) : List Char :=
  'e' :: (if exponent.isNegative then '-' else '+') :: chars exponent.digits

/-- The characters of a fraction; a fraction without digits has no point. -/
def writeFraction : List Digit → List Char
  | [] => []
  | ds => '.' :: chars ds

def Numeral.write (numeral : Numeral) : List Char :=
  (if numeral.isNegative then ['-'] else []) ++ chars numeral.whole ++
    writeFraction numeral.fraction ++ ((numeral.exponent.map (·.write)).getD [])

/-- Skips the digits of a whole part, which has no zero in front of other digits. -/
def readWhole? (text : List Char) : Option (List Digit × List Char) :=
  match spanDigits text with
  | ([], _) => none
  | (d :: ds, rest) => if d = 0 ∧ ds ≠ [] then none else some (d :: ds, rest)

/-- Reads digits, of which there has to be one. -/
def readDigits? (text : List Char) : Option (List Digit × List Char) :=
  match spanDigits text with
  | ([], _) => none
  | (ds, rest) => some (ds, rest)

/-- Reads a fraction, which may be missing. -/
def readFraction? : List Char → Option (List Digit × List Char)
  | '.' :: text => readDigits? text
  | text => some ([], text)

/-- Reads the sign and the digits of an exponent. -/
def readSignedDigits? : List Char → Option (Option Exponent × List Char)
  | '+' :: text => (readDigits? text).map fun (ds, rest) => (some ⟨false, ds⟩, rest)
  | '-' :: text => (readDigits? text).map fun (ds, rest) => (some ⟨true, ds⟩, rest)
  | text => (readDigits? text).map fun (ds, rest) => (some ⟨false, ds⟩, rest)

/-- Reads an exponent, which may be missing. -/
def readExponent? : List Char → Option (Option Exponent × List Char)
  | 'e' :: text => readSignedDigits? text
  | 'E' :: text => readSignedDigits? text
  | text => some (none, text)

/-- Reads a numeral without its sign. -/
def readUnsigned? (isNegative : Bool) (text : List Char) : Option (Numeral × List Char) := do
  let (whole, rest) ← readWhole? text
  let (fraction, rest) ← readFraction? rest
  let (exponent, rest) ← readExponent? rest
  return (⟨isNegative, whole, fraction, exponent⟩, rest)

/-- Reads the numeral that a text starts with. -/
def Numeral.read? : List Char → Option (Numeral × List Char)
  | '-' :: text => readUnsigned? true text
  | text => readUnsigned? false text

end FacetedSearch.Json
