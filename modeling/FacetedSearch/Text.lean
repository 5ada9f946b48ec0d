/-!
White space and trimming, and containment of one text in another.

A character is blank when it has the White_Space property of the Unicode standard.  `trim` removes
blank characters from both ends of a text and leaves everything between them alone.

`contains text part` decides whether `part` stands somewhere in `text` as one piece.  The empty
text is contained in every text.
-/

namespace FacetedSearch.Text

/-- Whether a code point lies in one of the closed ranges. -/
def inRanges (ranges : List (Nat × Nat)) (codePoint : Nat) : Bool :=
  ranges.any fun range => decide (range.1 ≤ codePoint) && decide (codePoint ≤ range.2)

def blankRanges : List (Nat × Nat) :=
  [(0x09, 0x0D), (0x20, 0x20), (0x85, 0x85), (0xA0, 0xA0), (0x1680, 0x1680), (0x2000, 0x200A),
    (0x2028, 0x2029), (0x202F, 0x202F), (0x205F, 0x205F), (0x3000, 0x3000)]

/-- Whether a character is white space. -/
def isBlank (c : Char) : Bool :=
  inRanges blankRanges c.toNat

def trimStart (text : List Char) : List Char :=
  text.dropWhile isBlank

def trimEnd (text : List Char) : List Char :=
  (text.reverse.dropWhile isBlank).reverse

def trim (text : List Char) : List Char :=
  trimEnd (trimStart text)

def trimmed (text : String) : String :=
  String.ofList (trim text.toList)

/-- The trimmed text, or nothing when no character but blanks was given. -/
def filled? (text : String) : Option String :=
  let text := trimmed text
  if text.isEmpty then none else some text

def contains : List Char → List Char → Bool
  | [], part => part.isEmpty
  | c :: text, part => part.isPrefixOf (c :: text) || contains text part

@[simp]
theorem contains_eq_true_iff (text part : List Char) :
    contains text part = true ↔ part <:+: text := by
  induction text with
  | nil => simp [contains]
  | cons c text inductionHypothesis =>
      simp [contains, inductionHypothesis, List.infix_cons_iff]

end FacetedSearch.Text
