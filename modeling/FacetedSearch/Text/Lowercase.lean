import FacetedSearch.Text
import FacetedSearch.Text.CaseTable

/-!
Lower-casing of whole texts.

Most characters are mapped one by one.  Two are not: the dotted capital I becomes two characters,
and a capital sigma at the end of a word becomes the final form of the letter.  A sigma ends a word
when the nearest character before it that is not passed over carries case and the nearest one after
it does not.
-/

namespace FacetedSearch.Text

/-- Whether a character is passed over when the neighbours of a letter are examined. -/
def isCaseIgnorable (c : Char) : Bool :=
  inRanges caseIgnorableRanges c.toNat

def isCased (c : Char) : Bool :=
  inRanges casedRanges c.toNat

/-- Whether the first character that is not passed over carries case. -/
def meetsCased (text : List Char) : Bool :=
  match text.dropWhile isCaseIgnorable with
  | [] => false
  | c :: _ => isCased c

def CaseRun.covers (run : CaseRun) (codePoint : Nat) : Bool :=
  decide (run.first ≤ codePoint) && decide (codePoint ≤ run.last) &&
    (codePoint - run.first) % run.step == 0

/-- The lower-case form of a character that has one of its own, wherever it stands. -/
def lowerChar (c : Char) : Char :=
  match caseRuns.find? (·.covers c.toNat) with
  | some run => Char.ofNat (c.toNat + run.shift).toNat
  | none => c

/-- The lower-case form of one character between the text before it, nearest first, and after it. -/
def lowerAt (before : List Char) (c : Char) (after : List Char) : List Char :=
  if c = 'Σ' then
    if meetsCased before && !meetsCased after then ['ς'] else ['σ']
  else if c = 'İ' then ['i', '\u0307']
  else [lowerChar c]

/-- Lower-cases a text that follows the characters `before`, which are given nearest first. -/
def lowerAfter : List Char → List Char → List Char
  | _, [] => []
  | before, c :: after => lowerAt before c after ++ lowerAfter (c :: before) after

def lower (text : List Char) : List Char :=
  lowerAfter [] text

end FacetedSearch.Text
