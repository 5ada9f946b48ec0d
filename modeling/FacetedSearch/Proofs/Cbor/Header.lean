import FacetedSearch.Cbor.Header
import Mathlib.Algebra.Group.Nat.Defs

/-!
Reading headers back.

A header that was written for a number of 64 bits is read as the header of its kind with that
number, in each of the five widths.  `Reads` is what every reader of items is to do with the bytes
written for an item: take them, and leave all bytes behind them.
-/

namespace FacetedSearch.Cbor

/-- Whatever stands behind the bytes written for an item, the item is read and nothing else. -/
def Reads {Item : Type} (read : Input → Except Fault (Item × Input)) (written : List UInt8)
    (item : Item) : Prop :=
  ∀ rest offset,
    read ⟨written ++ rest, offset⟩ = .ok (item, ⟨rest, offset + written.length⟩)

section

variable {Item Result : Type} {read : Input → Except Fault (Item × Input)}
  {written : List UInt8} {item : Item}

theorem Reads.map (reads : Reads read written item) (f : Item → Result) :
    Reads (fun input => do
      let (item, input) ← read input
      return (f item, input)) written (f item) := by
  intro rest offset
  simp only [reads rest offset]
  rfl

/-- What is read one after the other was written one after the other. -/
theorem Reads.bind (reads : Reads read written item)
    (next : Item → Input → Except Fault (Result × Input)) {later : List UInt8} {result : Result}
    (continued : Reads (next item) later result) :
    Reads (fun input => do
      let (item, input) ← read input
      next item input) (written ++ later) result := by
  intro rest offset
  have second := continued rest (offset + written.length)
  simp only [List.append_assoc, reads (later ++ rest) offset]
  rw [List.length_append, ← Nat.add_assoc]
  exact second

end

theorem take_append {written : List UInt8} {count : Nat} (whole : written.length = count)
    (rest : List UInt8) (offset : Nat) :
    Input.take ⟨written ++ rest, offset⟩ count = .ok (written, ⟨rest, offset + count⟩) := by
  subst whole
  simp [Input.take]

/-- The bytes that were written are read as the number, as far as it fits into them. -/
@[simp]
theorem read_write (width number : Nat) :
    Bytes.read (Bytes.write width number) = number % 0x100 ^ width := by
  induction width generalizing number with
  | zero => exact (Nat.mod_one number).symm
  | succ width inductionHypothesis =>
      rw [Bytes.write, Bytes.read_append_singleton, inductionHypothesis, Nat.pow_succ',
        Nat.mod_mul, UInt8.toNat_ofNat', Nat.mul_comm, Nat.add_comm]

/-- The lower five bits of the first byte of a header with a number. -/
def markOf (number : Nat) : Nat :=
  if widthOf number = 0 then number else widthMark (widthOf number)

/-- The argument that is read from a header with a number. -/
def argumentOf (number : Nat) : Argument :=
  if widthOf number = 0 then .number number else .wide (widthOf number) number

@[simp]
theorem value?_argumentOf (number : Nat) : (argumentOf number).value? = some number := by
  unfold argumentOf
  split <;> rfl

theorem writeHeader_eq (kind number : Nat) :
    writeHeader kind number =
      UInt8.ofNat (kind * 0x20 + markOf number) :: Bytes.write (widthOf number) number := by
  unfold writeHeader markOf
  by_cases narrow : widthOf number = 0
  · simp [narrow, Bytes.write]
  · simp [narrow]

@[simp]
theorem writeHeader_ne_nil (kind number : Nat) : writeHeader kind number ≠ [] := by
  rw [writeHeader_eq]
  exact List.cons_ne_nil _ _

@[simp]
theorem length_writeHeader (kind number : Nat) :
    (writeHeader kind number).length = widthOf number + 1 := by
  rw [writeHeader_eq, List.length_cons, Bytes.length_write]

/-- A number is small enough to stand in the first byte, or fits into the width it gets. -/
theorem widthOf_cases {number : Nat} (fits : number < UInt64.size) :
    widthOf number = 0 ∧ number < 24 ∨
      widthOf number ∈ [1, 2, 4, 8] ∧ number < 0x100 ^ widthOf number := by
  have bound : number < 0x10000000000000000 := fits
  unfold widthOf
  by_cases tiny : number < 24
  · simp [tiny]
  by_cases one : number < 0x100
  · simp [tiny, one]
  by_cases two : number < 0x10000
  · simp [tiny, one, two]
  by_cases four : number < 0x100000000
  · simp [tiny, one, two, four]
  · simp [tiny, one, two, four, bound]

theorem markOf_lt {number : Nat} (fits : number < UInt64.size) : markOf number < 0x20 := by
  unfold markOf
  rcases widthOf_cases fits with ⟨narrow, small⟩ | ⟨wide, -⟩
  · rw [if_pos narrow]
    omega
  · have marks : ∀ width ∈ [1, 2, 4, 8], width ≠ 0 ∧ widthMark width < 0x20 := by decide
    rw [if_neg (marks _ wide).1]
    exact (marks _ wide).2

/-- The mark of a width announces a number of that width. -/
theorem argument_widthMark {width : Nat} (known : width ∈ [1, 2, 4, 8]) (input : Input)
    (start : Nat) :
    input.argument start (widthMark width) = (do
      let (bytes, input) ← input.take width
      return (.wide width (Bytes.read bytes), input)) := by
  simp only [List.mem_cons, List.not_mem_nil, or_false] at known
  rcases known with rfl | rfl | rfl | rfl <;> rfl

theorem argument_write {number : Nat} (fits : number < UInt64.size) (rest : List UInt8)
    (offset start : Nat) :
    Input.argument ⟨Bytes.write (widthOf number) number ++ rest, offset⟩ start (markOf number) =
      .ok (argumentOf number, ⟨rest, offset + widthOf number⟩) := by
  rcases widthOf_cases fits with ⟨narrow, small⟩ | ⟨wide, bound⟩
  · rw [markOf, argumentOf, if_pos narrow, if_pos narrow, narrow]
    exact if_pos small
  · have notNarrow : widthOf number ≠ 0 := by
      intro narrow
      rw [narrow] at wide
      exact absurd wide (by decide)
    have taken := take_append (Bytes.length_write (widthOf number) number) rest offset
    have value : Bytes.read (Bytes.write (widthOf number) number) = number := by
      rw [read_write, Nat.mod_eq_of_lt bound]
    rw [markOf, argumentOf, if_neg notNarrow, if_neg notNarrow, argument_widthMark wide, taken]
    exact congrArg (fun number => Except.ok (Argument.wide _ number, _)) value

/-- The upper three bits of the first byte are the kind, and the lower five the mark. -/
theorem header_cons (byte : UInt8) (behind : List UInt8) (offset : Nat) :
    Input.header ⟨byte :: behind, offset⟩ = (do
      let (argument, rest) ←
        Input.argument ⟨behind, offset + 1⟩ offset (byte.toNat % 0x20)
      let header ← headerOf offset (byte.toNat / 0x20) argument
      return (header, rest)) := by
  have taken : Input.take ⟨byte :: behind, offset⟩ 1 = .ok ([byte], ⟨behind, offset + 1⟩) :=
    take_append (List.length_singleton : [byte].length = 1) behind offset
  have value : Bytes.read [byte] = byte.toNat := Nat.zero_add _
  unfold Input.header
  rw [taken, ← value]
  rfl

/-- Headers with a number of 64 bits are read as they were written. -/
theorem reads_header {kind number : Nat} {header : Header} (known : kind < 8)
    (fits : number < UInt64.size)
    (meaning : ∀ start argument, argument.value? = some number →
      headerOf start kind argument = .ok header) :
    Reads Input.header (writeHeader kind number) header := by
  intro rest offset
  have mark := markOf_lt fits
  have byte : (UInt8.ofNat (kind * 0x20 + markOf number)).toNat = kind * 0x20 + markOf number := by
    rw [UInt8.toNat_ofNat']
    omega
  have lower : (kind * 0x20 + markOf number) % 0x20 = markOf number := by omega
  have upper : (kind * 0x20 + markOf number) / 0x20 = kind := by omega
  rw [writeHeader_eq, List.cons_append, header_cons, byte, lower, upper, argument_write fits,
    List.length_cons, Bytes.length_write, Nat.add_right_comm, Nat.add_assoc]
  simp only [bind, Except.bind, meaning offset _ (value?_argumentOf number)]
  rfl

end FacetedSearch.Cbor
