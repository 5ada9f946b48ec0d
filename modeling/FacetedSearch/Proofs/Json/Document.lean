import FacetedSearch.Json.Reader
import FacetedSearch.Proofs.Decimal
import Mathlib.Tactic.SplitIfs

/-!
# Documents that are read back as they were written

A document is written in one way, and what follows it never changes how it is read: a numeral ends
where no digit, point or exponent goes on, and everything else is closed by a character of its own.
So a document whose numerals have the digits they need is read back from its text, with its members
in their order and every character of its texts.
-/

namespace FacetedSearch.Json

open Decimal

variable {rest : List Char}

/-! ## Numerals -/

/-- A numeral has a digit before the point, no zero in front of other digits there, and a digit in
its exponent, if it has one. -/
structure Numeral.WellFormed (numeral : Numeral) : Prop where
  nonempty : numeral.whole ≠ []
  unpadded : ∀ ds, numeral.whole = 0 :: ds → ds = []
  exponent : ∀ exponent ∈ numeral.exponent, exponent.digits ≠ []

/-- A text that does not go on with a numeral. -/
def EndsNumeral (text : List Char) : Prop :=
  ∀ c ∈ text.head?, ofDigitChar? c = none ∧ c ≠ '.' ∧ c ≠ 'e' ∧ c ≠ 'E'

theorem EndsNumeral.stops (ends : EndsNumeral rest) : Stops rest :=
  fun c head => (ends c head).1

theorem endsNumeral_nil : EndsNumeral [] :=
  nofun

theorem endsNumeral_cons {c : Char} (other : ofDigitChar? c = none ∧ c ≠ '.' ∧ c ≠ 'e' ∧ c ≠ 'E')
    (rest : List Char) : EndsNumeral (c :: rest) := by
  intro first head
  obtain rfl := Option.some.inj head
  exact other

theorem wellFormed_ofNat (n : Nat) : (Numeral.ofNat n).WellFormed where
  nonempty := digits_ne_nil n
  unpadded := by
    intro ds leading
    rcases Nat.eq_zero_or_pos n with rfl | positive
    · exact (List.cons.inj leading).2.symm
    · refine absurd ?_ (head?_digits_ne_zero positive)
      exact congrArg List.head? leading
  exponent := nofun

/-- The characters of an exponent that may be missing. -/
def writeExponent (exponent : Option Exponent) : List Char :=
  (exponent.map (·.write)).getD []

theorem Numeral.write_append (numeral : Numeral) (rest : List Char) :
    numeral.write ++ rest =
      (if numeral.isNegative then ['-'] else []) ++ (chars numeral.whole ++
        (writeFraction numeral.fraction ++ (writeExponent numeral.exponent ++ rest))) := by
  simp only [write, writeExponent, List.append_assoc]

theorem readWhole?_append {numeral : Numeral} (wellFormed : numeral.WellFormed)
    (stops : Stops rest) :
    readWhole? (chars numeral.whole ++ rest) = some (numeral.whole, rest) := by
  unfold readWhole?
  rw [spanDigits_append _ stops]
  cases written : numeral.whole with
  | nil => exact absurd written wellFormed.nonempty
  | cons d ds =>
      have unpadded : ¬(d = 0 ∧ ds ≠ []) := by
        rintro ⟨rfl, more⟩
        exact more (wellFormed.unpadded ds written)
      exact if_neg unpadded

theorem readDigits?_append {ds : List Digit} (nonempty : ds ≠ []) (stops : Stops rest) :
    readDigits? (chars ds ++ rest) = some (ds, rest) := by
  unfold readDigits?
  rw [spanDigits_append _ stops]
  cases ds with
  | nil => exact absurd rfl nonempty
  | cons d ds => rfl

theorem readFraction?_append (ds : List Digit) (stops : Stops rest)
    (pointless : '.' ∉ rest.head?) :
    readFraction? (writeFraction ds ++ rest) = some (ds, rest) := by
  cases ds with
  | nil =>
      unfold writeFraction readFraction?
      split
      next after same =>
        rw [List.nil_append] at same
        exact absurd (same ▸ rfl) pointless
      next => rfl
  | cons d ds => exact readDigits?_append (List.cons_ne_nil d ds) stops

theorem readExponent?_append {exponent : Option Exponent}
    (nonempty : ∀ written ∈ exponent, written.digits ≠ []) (ends : EndsNumeral rest) :
    readExponent? (writeExponent exponent ++ rest) = some (exponent, rest) := by
  cases exponent with
  | none =>
      change readExponent? rest = some (none, rest)
      unfold readExponent?
      split
      next after => exact absurd rfl (ends 'e' rfl).2.2.1
      next after => exact absurd rfl (ends 'E' rfl).2.2.2
      next => rfl
  | some written =>
      obtain ⟨isNegative, ds⟩ := written
      have read := readDigits?_append (nonempty _ rfl) ends.stops
      change readSignedDigits? ((if isNegative then '-' else '+') :: chars ds ++ rest) = _
      cases isNegative <;>
        simp only [if_true, Bool.false_eq_true, if_false, List.cons_append, readSignedDigits?, read,
          Option.map_some]

theorem stops_writeExponent (exponent : Option Exponent) (ends : EndsNumeral rest) :
    Stops (writeExponent exponent ++ rest) ∧ '.' ∉ (writeExponent exponent ++ rest).head? := by
  cases exponent with
  | none => exact ⟨ends.stops, fun point => (ends '.' point).2.1 rfl⟩
  | some written =>
      refine ⟨?_, by simp [writeExponent, Exponent.write]⟩
      intro c head
      obtain rfl := Option.some.inj head
      decide

theorem stops_writeFraction (ds : List Digit) (stops : Stops rest) :
    Stops (writeFraction ds ++ rest) := by
  cases ds with
  | nil => exact stops
  | cons d ds =>
      intro c head
      obtain rfl := Option.some.inj head
      decide

theorem readUnsigned?_append {numeral : Numeral} (wellFormed : numeral.WellFormed)
    (ends : EndsNumeral rest) :
    readUnsigned? numeral.isNegative (chars numeral.whole ++ (writeFraction numeral.fraction ++
      (writeExponent numeral.exponent ++ rest))) = some (numeral, rest) := by
  obtain ⟨stops, pointless⟩ := stops_writeExponent numeral.exponent ends
  have afterWhole := stops_writeFraction numeral.fraction stops
  simp only [readUnsigned?, Option.bind_eq_bind, readWhole?_append wellFormed afterWhole,
    readFraction?_append numeral.fraction stops pointless,
    readExponent?_append wellFormed.exponent ends, Option.bind_some]
  rfl

/-- A numeral starts with its sign, or else with a digit. -/
theorem Numeral.WellFormed.exists_write {numeral : Numeral} (wellFormed : numeral.WellFormed) :
    ∃ c text, numeral.write = c :: text ∧
      (numeral.isNegative = true ∧ c = '-' ∨
        numeral.isNegative = false ∧ ∃ d, c = digitChar d) := by
  obtain ⟨isNegative, whole, fraction, exponent⟩ := numeral
  cases isNegative with
  | true => exact ⟨_, _, rfl, .inl ⟨rfl, rfl⟩⟩
  | false =>
      cases whole with
      | nil => exact absurd rfl wellFormed.nonempty
      | cons d ds => exact ⟨_, _, rfl, .inr ⟨rfl, d, rfl⟩⟩

theorem Numeral.WellFormed.read?_append {numeral : Numeral} (wellFormed : numeral.WellFormed)
    (ends : EndsNumeral rest) :
    Numeral.read? (numeral.write ++ rest) = some (numeral, rest) := by
  have unsigned := readUnsigned?_append wellFormed ends
  have written := numeral.write_append rest
  obtain ⟨c, text, same, negative | ⟨positive, d, rfl⟩⟩ := wellFormed.exists_write
  · rw [negative.1] at unsigned written
    rw [written]
    exact unsigned
  · rw [positive] at unsigned written
    have unmarked := Numeral.read?.eq_2 (numeral.write ++ rest) fun after minus => by
      rw [same] at minus
      exact digitChar_ne (by decide) d (List.cons.inj minus).1
    rw [unmarked, written]
    exact unsigned

/-! ## Texts -/

/-- A piece of a quoted text stands for a character, as it is or by its number. -/
def Piece.Names : Piece → Char → Prop
  | .char c, named => c = named
  | .unit value, named => value = named.toNat

/-- The number of a character is no half of a surrogate pair. -/
theorem not_surrogate (c : Char) :
    isHighSurrogate c.toNat = false ∧ isLowSurrogate c.toNat = false := by
  have valid : c.toNat < 0xD800 ∨ 0xDFFF < c.toNat ∧ c.toNat < 0x110000 := c.valid
  simp only [isHighSurrogate, isLowSurrogate, Bool.and_eq_false_iff, decide_eq_false_iff_not]
  omega

@[simp]
theorem charsOfPieces?_unit (c : Char) (pieces : List Piece) :
    charsOfPieces? (.unit c.toNat :: pieces) = (charsOfPieces? pieces).map (c :: ·) := by
  obtain ⟨notHigh, notLow⟩ := not_surrogate c
  have same : Char.ofNat c.toNat = c := Char.ofNat_toNat c
  cases pieces with
  | nil => simp [charsOfPieces?, notHigh, notLow, same]
  | cons piece pieces => cases piece <;> simp [charsOfPieces?, notHigh, notLow, same]

theorem charsOfPieces?_of_names {pieces : List Piece} {text : List Char}
    (names : List.Forall₂ Piece.Names pieces text) : charsOfPieces? pieces = some text := by
  induction names with
  | nil => rfl
  | @cons piece c pieces text first later inductionHypothesis =>
      cases piece with
      | char named =>
          obtain rfl : named = c := first
          rw [charsOfPieces?, inductionHypothesis, Option.map_some]
      | unit value =>
          obtain rfl : value = c.toNat := first
          rw [charsOfPieces?_unit, inductionHypothesis, Option.map_some]

/-- The two digits of a control character name it. -/
theorem unitOf?_control : ∀ n < 0x20,
    unitOf? '0' '0' (Text.lowerHexDigits.getD (n / 16) '0')
      (Text.lowerHexDigits.getD (n % 16) '0') = some n := by
  decide +kernel

theorem readPieces?_control {c : Char} (control : c.toNat < 0x20) (rest : List Char) :
    readPieces? (['\\', 'u', '0', '0'] ++
      Text.hexByte Text.lowerHexDigits (UInt8.ofNat c.toNat) ++ rest) =
        (readPieces? rest).map fun (pieces, rest) => (.unit c.toNat :: pieces, rest) := by
  have byte : (UInt8.ofNat c.toNat).toNat = c.toNat :=
    UInt8.toNat_ofNat_of_lt' (Nat.lt_trans control (by decide))
  simp only [Text.hexByte, byte, List.cons_append, List.nil_append, readPieces?,
    unitOf?_control _ control, Option.bind_eq_bind, Option.bind_some]
  cases readPieces? rest <;> rfl

/-- A character is escaped by a letter that stands for it, by its number, or not at all. -/
theorem escape?_cases (c : Char) :
    (∃ letter, escape? c = some ['\\', letter] ∧ letter ≠ 'u' ∧ unescape? letter = some c) ∨
      (c.toNat < 0x20 ∧ escape? c = some (['\\', 'u', '0', '0'] ++
        Text.hexByte Text.lowerHexDigits (UInt8.ofNat c.toNat))) ∨
      (escape? c = none ∧ c ≠ '"' ∧ c ≠ '\\' ∧ ¬c.toNat < 0x20) := by
  unfold escape?
  split_ifs with quoted backslash backspace feed newline carriage tab control
  · exact .inl ⟨'"', rfl, by decide, congrArg some quoted.symm⟩
  · exact .inl ⟨'\\', rfl, by decide, congrArg some backslash.symm⟩
  · exact .inl ⟨'b', rfl, by decide, congrArg some backspace.symm⟩
  · exact .inl ⟨'f', rfl, by decide, congrArg some feed.symm⟩
  · exact .inl ⟨'n', rfl, by decide, congrArg some newline.symm⟩
  · exact .inl ⟨'r', rfl, by decide, congrArg some carriage.symm⟩
  · exact .inl ⟨'t', rfl, by decide, congrArg some tab.symm⟩
  · exact .inr (.inl ⟨control, rfl⟩)
  · exact .inr (.inr ⟨rfl, quoted, backslash, control⟩)

theorem readPieces?_letter {letter c : Char} (noNumber : letter ≠ 'u')
    (stands : unescape? letter = some c) (rest : List Char) :
    readPieces? ('\\' :: letter :: rest) =
      (readPieces? rest).map fun (pieces, rest) => (.char c :: pieces, rest) := by
  rw [readPieces?.eq_4 letter rest fun _ _ _ _ _ same => absurd same noNumber, stands]
  cases readPieces? rest <;> rfl

theorem readPieces?_plain {c : Char} (noQuote : c ≠ '"') (noBackslash : c ≠ '\\')
    (printable : ¬c.toNat < 0x20) (rest : List Char) :
    readPieces? (c :: rest) =
      (readPieces? rest).map fun (pieces, rest) => (.char c :: pieces, rest) := by
  rw [readPieces?.eq_5 c rest noQuote (fun _ _ _ _ _ same => absurd same noBackslash)
    (fun _ _ same => absurd same noBackslash)]
  exact if_neg (not_or.mpr ⟨printable, noBackslash⟩)

/-- A character is read back from its escape, whatever follows. -/
theorem exists_readPieces? (c : Char) : ∃ piece : Piece, piece.Names c ∧ ∀ rest,
    readPieces? ((escape? c).getD [c] ++ rest) =
      (readPieces? rest).map fun (pieces, rest) => (piece :: pieces, rest) := by
  rcases escape?_cases c with ⟨letter, escaped, noNumber, stands⟩ | ⟨control, escaped⟩ |
    ⟨escaped, noQuote, noBackslash, printable⟩
  · rw [escaped]
    exact ⟨.char c, rfl, readPieces?_letter noNumber stands⟩
  · rw [escaped]
    exact ⟨.unit c.toNat, rfl, readPieces?_control control⟩
  · rw [escaped]
    exact ⟨.char c, rfl, readPieces?_plain noQuote noBackslash printable⟩

/-- A text is read back from between its quotes. -/
@[simp]
theorem readQuoted?_escapeText (text rest : List Char) :
    readQuoted? (escapeText text ++ '"' :: rest) = some (some (String.ofList text), rest) := by
  have read : ∃ pieces, readPieces? (escapeText text ++ '"' :: rest) = some (pieces, rest) ∧
      List.Forall₂ Piece.Names pieces text := by
    induction text with
    | nil => exact ⟨[], rfl, .nil⟩
    | cons c text inductionHypothesis =>
        obtain ⟨pieces, later, names⟩ := inductionHypothesis
        obtain ⟨piece, named, first⟩ := exists_readPieces? c
        refine ⟨piece :: pieces, ?_, .cons named names⟩
        rw [escapeText, List.append_assoc, first, later]
        rfl
  obtain ⟨pieces, read, names⟩ := read
  simp only [readQuoted?, read, Option.map_some, charsOfPieces?_of_names names]

/-! ## Documents -/

/-- A document can be read: all of its numerals can, and there is nothing in it that is only passed
over. -/
inductive Document.WellFormed : Document → Prop where
  | null : WellFormed .null
  | bool (value : Bool) : WellFormed (.bool value)
  | number {numeral : Numeral} (wellFormed : numeral.WellFormed) : WellFormed (.number numeral)
  | string (text : String) : WellFormed (.string text)
  | array {items : List Document} (each : ∀ item ∈ items, WellFormed item) :
      WellFormed (.array items)
  | object {members : List (String × Document)} (each : ∀ member ∈ members, WellFormed member.2) :
      WellFormed (.object members)

/-- A document is found at the start of a text that begins with it. -/
def Document.IsFound (document : Document) : Prop :=
  ∀ fuel rest, document.write.length < fuel → EndsNumeral rest →
    readValue? fuel (document.write ++ rest) = some (document, rest)

/-- The characters that a document may start with. -/
def opens (c : Char) : Bool :=
  ['n', 't', 'f', '"', '[', '\x7b', '-'].contains c || (ofDigitChar? c).isSome

theorem isSpace_of_opens {c : Char} (opening : opens c = true) : isSpace c = false := by
  cases spaced : isSpace c with
  | false => rfl
  | true =>
      simp only [isSpace, Bool.or_eq_true, beq_iff_eq] at spaced
      rcases spaced with ((rfl | rfl) | rfl) | rfl <;> exact absurd opening (by decide)

theorem Document.WellFormed.exists_write {document : Document} (wellFormed : document.WellFormed) :
    ∃ c text, document.write = c :: text ∧ opens c = true := by
  cases wellFormed with
  | null => exact ⟨_, _, rfl, rfl⟩
  | bool value => cases value <;> exact ⟨_, _, rfl, rfl⟩
  | number wellFormed =>
      obtain ⟨c, text, same, ⟨-, rfl⟩ | ⟨-, d, rfl⟩⟩ := wellFormed.exists_write
      · exact ⟨_, _, same, rfl⟩
      · exact ⟨_, _, same, by simp [opens]⟩
  | string text => exact ⟨_, _, rfl, rfl⟩
  | @array items each => cases items <;> exact ⟨_, _, rfl, rfl⟩
  | @object members each =>
      cases members with
      | nil => exact ⟨_, _, rfl, rfl⟩
      | cons member members => exact ⟨_, _, rfl, rfl⟩

theorem skipSpace_cons {c : Char} (solid : isSpace c = false) (text : List Char) :
    skipSpace (c :: text) = c :: text :=
  List.dropWhile_cons_of_neg (by simp [solid])

theorem Document.WellFormed.skipSpace_append {document : Document}
    (wellFormed : document.WellFormed) (rest : List Char) :
    skipSpace (document.write ++ rest) = document.write ++ rest := by
  obtain ⟨c, text, same, opening⟩ := wellFormed.exists_write
  rw [same]
  exact skipSpace_cons (isSpace_of_opens opening) _

/-- What starts with a sign or a digit is read as a number. -/
theorem readValue?_number {c : Char} {text : List Char} (fuel : Nat)
    (leading : c = '-' ∨ ∃ d, c = digitChar d) :
    readValue? (fuel + 1) (c :: text) =
      (Numeral.read? (c :: text)).map fun (numeral, rest) => (.number numeral, rest) := by
  have solid : isSpace c = false := by
    apply isSpace_of_opens
    rcases leading with rfl | ⟨d, rfl⟩
    · rfl
    · simp [opens]
  have apart : ∀ other, other ≠ '-' → ofDigitChar? other = none → c ≠ other := by
    rintro other noSign noDigit rfl
    rcases leading with sign | ⟨d, digit⟩
    · exact noSign sign
    · exact digitChar_ne noDigit d digit.symm
  have noWord : readWord? (c :: text) = none := by
    unfold readWord?
    split
    next same => exact absurd (List.cons.inj same).1 (apart 'n' (by decide) (by decide))
    next same => exact absurd (List.cons.inj same).1 (apart 't' (by decide) (by decide))
    next same => exact absurd (List.cons.inj same).1 (apart 'f' (by decide) (by decide))
    next => rfl
  rw [readValue?, skipSpace_cons solid]
  split
  next same => exact absurd (List.cons.inj same).1 (apart '[' (by decide) (by decide))
  next same => exact absurd (List.cons.inj same).1 (apart '\x7b' (by decide) (by decide))
  next same => exact absurd (List.cons.inj same).1 (apart '"' (by decide) (by decide))
  next => rw [noWord, Option.none_or]

theorem Numeral.WellFormed.isFound {numeral : Numeral} (wellFormed : numeral.WellFormed) :
    Document.IsFound (.number numeral) := by
  intro fuel rest enough ends
  obtain ⟨fuel, rfl⟩ := Nat.exists_eq_add_one_of_ne_zero (Nat.ne_zero_of_lt enough)
  have read := wellFormed.read?_append ends
  obtain ⟨c, text, same, leading⟩ := wellFormed.exists_write
  have leading := leading.imp And.right And.right
  rw [same, List.cons_append] at read
  rw [Document.write, same, List.cons_append, readValue?_number fuel leading, read]
  rfl

theorem isFound_string (text : String) : Document.IsFound (.string text) := by
  intro fuel rest enough _
  obtain ⟨fuel, rfl⟩ := Nat.exists_eq_add_one_of_ne_zero (Nat.ne_zero_of_lt enough)
  have read := readQuoted?_escapeText text.toList rest
  rw [String.ofList_toList] at read
  rw [Document.write, quote, List.append_assoc, List.cons_append, List.singleton_append, readValue?,
    skipSpace_cons (by decide)]
  simp only [read]
  rfl

/-! ### Lists -/

/-- What stands behind an item or a member ends a numeral. -/
theorem endsNumeral_writeItems (items : List Document) (rest : List Char) :
    EndsNumeral (writeItems items ++ rest) := by
  cases items <;> exact endsNumeral_cons (by decide) _

theorem endsNumeral_writeMembers (members : List (String × Document)) (rest : List Char) :
    EndsNumeral (writeMembers members ++ rest) := by
  cases members <;> exact endsNumeral_cons (by decide) _

/-- Items that are found one by one are found as a list, up to its closing bracket. -/
theorem readItems?_append (item : Document) (items : List Document)
    (each : ∀ other ∈ item :: items, other.IsFound) (fuel : Nat)
    (enough : (item.write ++ writeItems items).length < fuel) (rest : List Char) :
    readItems? fuel (item.write ++ (writeItems items ++ rest)) = some (item :: items, rest) := by
  induction items generalizing item fuel with
  | nil =>
      obtain ⟨fuel, rfl⟩ := Nat.exists_eq_add_one_of_ne_zero (Nat.ne_zero_of_lt enough)
      have room : item.write.length < fuel := by
        simpa [writeItems] using enough
      have first := each item List.mem_cons_self fuel _ room (endsNumeral_writeItems [] rest)
      simp only [readItems?, Option.bind_eq_bind, first, Option.bind_some]
      rfl
  | cons next items inductionHypothesis =>
      obtain ⟨fuel, rfl⟩ := Nat.exists_eq_add_one_of_ne_zero (Nat.ne_zero_of_lt enough)
      simp only [writeItems, List.length_append, List.length_cons] at enough
      have first := each item List.mem_cons_self fuel _ (by omega)
        (endsNumeral_writeItems (next :: items) rest)
      have later := inductionHypothesis next
        (fun other listed => each other (List.mem_cons_of_mem item listed)) fuel
        (by rw [List.length_append]; omega)
      simp only [readItems?, Option.bind_eq_bind, first, Option.bind_some]
      simp only [writeItems, List.cons_append, List.append_assoc, skipSpace_cons (c := ',') rfl,
        later]
      rfl

/-- A key is read up to the colon behind it. -/
@[simp]
theorem readKey?_quote (key : String) (rest : List Char) :
    readKey? (quote key.toList ++ ':' :: rest) = some (some key, rest) := by
  have quoted := readQuoted?_escapeText key.toList (':' :: rest)
  rw [String.ofList_toList] at quoted
  simp only [quote, List.cons_append, List.append_assoc, List.nil_append, readKey?,
    skipSpace_cons (c := '"') rfl, Option.bind_eq_bind, quoted, Option.bind_some]
  rfl

/-- Members that are found one by one are found as a list, up to its closing brace. -/
theorem readMembers?_append (key : String) (value : Document) (members : List (String × Document))
    (each : ∀ member ∈ (key, value) :: members, member.2.IsFound) (fuel : Nat)
    (enough : (value.write ++ writeMembers members).length < fuel) (rest : List Char) :
    readMembers? fuel
        (quote key.toList ++ ':' :: (value.write ++ (writeMembers members ++ rest))) =
      some (((key, value) :: members).map fun member => (some member.1, member.2), rest) := by
  induction members generalizing key value fuel with
  | nil =>
      obtain ⟨fuel, rfl⟩ := Nat.exists_eq_add_one_of_ne_zero (Nat.ne_zero_of_lt enough)
      have room : value.write.length < fuel := by
        simpa [writeMembers] using enough
      have first := each _ List.mem_cons_self fuel _ room (endsNumeral_writeMembers [] rest)
      simp only [readMembers?, readKey?_quote, Option.bind_eq_bind, first, Option.bind_some]
      rfl
  | cons next members inductionHypothesis =>
      obtain ⟨fuel, rfl⟩ := Nat.exists_eq_add_one_of_ne_zero (Nat.ne_zero_of_lt enough)
      simp only [writeMembers, List.length_append, List.length_cons] at enough
      have first := each (key, value) List.mem_cons_self fuel _
        (show value.write.length < fuel by omega)
        (endsNumeral_writeMembers (next :: members) rest)
      have later := inductionHypothesis next.1 next.2
        (fun other listed => each other (List.mem_cons_of_mem _ listed)) fuel
        (by rw [List.length_append]; omega)
      simp only [readMembers?, readKey?_quote, Option.bind_eq_bind, first, Option.bind_some]
      simp only [writeMembers, List.cons_append, List.append_assoc, skipSpace_cons (c := ',') rfl,
        later]
      rfl

/-- Members whose keys could all be read are an object. -/
@[simp]
theorem documentOfMembers_map (members : List (String × Document)) :
    documentOfMembers (members.map fun member => (some member.1, member.2)) = .object members := by
  have read : (members.map fun member => (some member.1, member.2)).mapM
      (fun member => member.1.map fun key => (key, member.2)) = some members := by
    induction members with
    | nil => rfl
    | cons member members inductionHypothesis =>
        rw [List.map_cons, List.mapM_cons, inductionHypothesis]
        rfl
  rw [documentOfMembers, read]

theorem isFound_array {items : List Document}
    (each : ∀ item ∈ items, item.WellFormed ∧ item.IsFound) : Document.IsFound (.array items) := by
  intro fuel rest enough _
  obtain ⟨fuel, rfl⟩ := Nat.exists_eq_add_one_of_ne_zero (Nat.ne_zero_of_lt enough)
  cases items with
  | nil => rfl
  | cons item items =>
      have read := readItems?_append item items (fun other listed => (each other listed).2)
        fuel (by simpa [Document.write] using enough) rest
      have solid := (each item List.mem_cons_self).1.skipSpace_append (writeItems items ++ rest)
      obtain ⟨c, text, same, opening⟩ := (each item List.mem_cons_self).1.exists_write
      rw [Document.write, List.append_assoc, List.cons_append, readValue?,
        skipSpace_cons (c := '[') rfl]
      simp only [solid, read]
      split
      next after closed =>
        rw [same] at closed
        rw [(List.cons.inj closed).1] at opening
        exact absurd opening (by decide)
      next => rfl

theorem isFound_object {members : List (String × Document)}
    (each : ∀ member ∈ members, member.2.IsFound) : Document.IsFound (.object members) := by
  intro fuel rest enough _
  obtain ⟨fuel, rfl⟩ := Nat.exists_eq_add_one_of_ne_zero (Nat.ne_zero_of_lt enough)
  cases members with
  | nil => rfl
  | cons member members =>
      obtain ⟨key, value⟩ := member
      simp only [Document.write, List.length_append, List.length_cons] at enough
      have read := readMembers?_append key value members each fuel
        (by rw [List.length_append]; omega) rest
      rw [Document.write]
      simp only [List.append_assoc, List.cons_append, readValue?, skipSpace_cons (c := '\x7b') rfl,
        read, Option.map_some, documentOfMembers_map]
      rfl

/-- A document that can be read is found wherever it stands. -/
theorem Document.WellFormed.isFound {document : Document} (wellFormed : document.WellFormed) :
    document.IsFound := by
  induction wellFormed with
  | null =>
      intro fuel rest enough _
      obtain ⟨fuel, rfl⟩ := Nat.exists_eq_add_one_of_ne_zero (Nat.ne_zero_of_lt enough)
      rfl
  | bool value =>
      intro fuel rest enough _
      obtain ⟨fuel, rfl⟩ := Nat.exists_eq_add_one_of_ne_zero (Nat.ne_zero_of_lt enough)
      cases value <;> rfl
  | number wellFormed => exact wellFormed.isFound
  | string text => exact isFound_string text
  | array each inductionHypothesis =>
      exact isFound_array fun item listed => ⟨each item listed, inductionHypothesis item listed⟩
  | object each inductionHypothesis => exact isFound_object inductionHypothesis

/-- A document that can be read is read back from its text. -/
theorem Document.WellFormed.read?_text {document : Document} (wellFormed : document.WellFormed) :
    Document.read? document.text = some document := by
  have found := wellFormed.isFound (document.write.length + 1) [] (Nat.lt_succ_self _)
    endsNumeral_nil
  rw [List.append_nil] at found
  simp only [Document.read?, Document.text, String.toList_ofList, found]
  rfl

end FacetedSearch.Json
