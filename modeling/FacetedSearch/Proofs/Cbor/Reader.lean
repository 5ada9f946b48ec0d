import FacetedSearch.Cbor.Reader
import FacetedSearch.Proofs.Cbor.Header
import FacetedSearch.Proofs.Text.Utf8

/-!
Reading texts and containers back.

A text is read whole, wherever its chunks cut it: what is carried over from one chunk to the next is
the beginning of a character.  The entries of a container are read one after another, each from the
state in which the one before it left off.
-/

namespace FacetedSearch.Cbor

/-- Behind no tag, a header is found where it stands. -/
theorem untagged_append {written : List UInt8} {header : Header}
    (reads : Reads Input.header written header) (plain : ∀ value, header ≠ .tag value)
    (rest : List UInt8) (offset : Nat) :
    Input.untagged ⟨written ++ rest, offset⟩ =
      .ok ⟨header, offset, false, ⟨rest, offset + written.length⟩⟩ := by
  rw [Input.untagged, untaggedWith, reads rest offset]
  cases header with
  | tag value => exact absurd rfl (plain value)
  | _ => rfl

/-- An item is its header, and the content that this header asks for. -/
theorem Reads.behind {Item : Type} {written content : List UInt8} {header : Header} {item : Item}
    (reads : Reads Input.header written header) (plain : ∀ value, header ≠ .tag value)
    {read : Untagged → Except Fault (Item × Input)}
    (continued : ∀ start, Reads (fun input => read ⟨header, start, false, input⟩) content item) :
    Reads (fun input => do
      let found ← input.untagged
      read found) (written ++ content) item := by
  intro rest offset
  have second := continued offset rest (offset + written.length)
  simp only [List.append_assoc, untagged_append reads plain]
  rw [List.length_append, ← Nat.add_assoc]
  exact second

theorem reads_textHeader {length : Nat} (fits : length < UInt64.size) :
    Reads Input.header (writeHeader textKind length) (.text (some length)) := by
  apply reads_header (by decide) fits
  intro start argument value
  rw [textKind, headerOf, value]

theorem reads_arrayHeader {length : Nat} (fits : length < UInt64.size) :
    Reads Input.header (writeHeader arrayKind length) (.array (some length)) := by
  apply reads_header (by decide) fits
  intro start argument value
  rw [arrayKind, headerOf, value]

theorem reads_mapHeader {length : Nat} (fits : length < UInt64.size) :
    Reads Input.header (writeHeader mapKind length) (.map (some length)) := by
  apply reads_header (by decide) fits
  intro start argument value
  rw [mapKind, headerOf, value]

theorem reads_wordHeader {number : Nat} (fits : number < UInt64.size) :
    Reads Input.header (writeHeader wordKind number) (.positive number) := by
  apply reads_header (by decide) fits
  intro start argument value
  rw [wordKind, headerOf, numbered, value]

/-- A text is read in chunks, and what is carried into a chunk is a part of a character at most. -/
theorem textChunks_encode {text : List Char} {carried pending : List UInt8} {fuel : Nat}
    (whole : carried ++ pending = Utf8.encode text) (short : carried.length ≤ 3)
    (unread : Utf8.char? carried = none) (enough : pending.length < fuel)
    (place : Nat) (rest : List UInt8) (offset : Nat) :
    textChunks place fuel carried pending.length ⟨pending ++ rest, offset⟩ =
      (text, .ok ⟨rest, offset + pending.length⟩) := by
  -- What is carried and what is pending together are the bytes of the characters still to come.
  induction fuel generalizing text carried pending offset with
  | zero => exact absurd enough (Nat.not_lt_zero _)
  | succ fuel inductionHypothesis =>
      by_cases atEnd : pending = []
      · subst atEnd
        rw [List.append_nil] at whole
        subst whole
        obtain rfl := Utf8.eq_nil_of_char?_encode unread
        rfl
      · have positive : 0 < pending.length := List.length_pos_iff.mpr atEnd
        generalize size : min (chunkSize - carried.length) pending.length = count
        -- What is carried leaves room in a chunk, so that every chunk takes at least one byte.
        have progress : 0 < count ∧ count ≤ pending.length := by
          unfold chunkSize at size
          omega
        have length : (pending.take count).length = count := by
          rw [List.length_take, Nat.min_eq_left progress.2]
        have taken := take_append length (pending.drop count ++ rest) offset
        rw [← List.append_assoc, List.take_append_drop] at taken
        have joined :
            (carried ++ pending.take count) ++ pending.drop count = Utf8.encode text := by
          rw [List.append_assoc, List.take_append_drop, whole]
        obtain ⟨complete, remaining, part, rfl, cut⟩ := Utf8.exists_cut joined
        have chunk : Utf8.split (carried ++ pending.take count) = (complete, part) := by
          rw [cut.front_eq, Utf8.split_encode_append complete cut.unread]
        have left : (pending.drop count).length = pending.length - count := List.length_drop
        have continued := inductionHypothesis cut.back_eq cut.short cut.unread (by omega)
          (offset + count)
        rw [left] at continued
        simp only [textChunks, if_neg (Nat.ne_of_gt positive), size, taken, chunk,
          if_neg (Nat.not_lt_of_le cut.short), continued, Delivery.after]
        rw [Nat.add_assoc, Nat.add_sub_cancel' progress.2]

theorem readContent_text (text : List Char) (rest : List UInt8) (offset : Nat) :
    readContent textContent (some (Utf8.encode text).length) ⟨Utf8.encode text ++ rest, offset⟩ =
      (text, .ok ⟨rest, offset + (Utf8.encode text).length⟩) := by
  apply textChunks_encode (List.nil_append _) (Nat.zero_le 3) rfl
  rw [List.length_append]
  exact Nat.lt_succ_of_le (Nat.le_add_right _ _)

theorem reads_text {text : List Char} (fits : (Utf8.encode text).length < UInt64.size) :
    Reads Input.text (writeHeader textKind (Utf8.encode text).length ++ Utf8.encode text)
      (String.ofList text) := by
  apply (reads_textHeader fits).behind nofun
  intro start rest offset
  simp only [readContent_text]
  rfl

/-- A text that is short enough for a name is read back as its bytes. -/
theorem reads_name (isOpen : Bool) {text : List Char}
    (short : (Utf8.encode text).length ≤ chunkSize) :
    Reads (Input.name · isOpen)
      (writeHeader textKind (Utf8.encode text).length ++ Utf8.encode text) (Utf8.encode text) := by
  have fits : (Utf8.encode text).length < UInt64.size := Nat.lt_of_le_of_lt short (by decide)
  have isText : (Utf8.decode? (Utf8.encode text)).isSome = true := by
    rw [Utf8.decode?_encode]
    rfl
  apply (reads_textHeader fits).behind nofun
  intro start rest offset
  simp only [if_neg (Nat.not_lt_of_le short), take_append rfl, bind, Except.bind, if_pos isText]
  rfl

theorem reads_word (number : UInt64) :
    Reads Input.word (writeHeader wordKind number.toNat) number := by
  intro rest offset
  have header := reads_wordHeader number.toNat_lt rest offset
  have inRange : ¬(false = true ∨ UInt64.size ≤ number.toNat) := by
    rintro (negative | tooLarge)
    · cases negative
    · exact absurd number.toNat_lt (Nat.not_lt_of_le tooLarge)
  simp only [Input.word, integerWith, header, bind, Except.bind, pure, Except.pure,
    if_neg inRange, UInt64.ofNat_toNat]

/-- The states that a container's entries lead through, each read from the state before it. -/
inductive ReadsAll {State : Type} (step : State → Input → Except Fault (State × Input)) :
    State → List (List UInt8) → State → Prop where
  | done {state : State} : ReadsAll step state [] state
  | entry {state next last : State} {written : List UInt8} {rest : List (List UInt8)}
      (nonempty : written ≠ []) (reads : Reads (step state) written next)
      (later : ReadsAll step next rest last) : ReadsAll step state (written :: rest) last

section

variable {State : Type} {step : State → Input → Except Fault (State × Input)}
  {state last : State} {items : List (List UInt8)}

theorem ReadsAll.length_le (all : ReadsAll step state items last) :
    items.length ≤ items.flatten.length := by
  induction all with
  | done => exact Nat.zero_le _
  | entry nonempty reads later inductionHypothesis =>
      have positive := List.length_pos_iff.mpr nonempty
      rw [List.flatten_cons, List.length_append, List.length_cons]
      omega

theorem ReadsAll.entries_eq (all : ReadsAll step state items last) {fuel : Nat}
    (enough : items.length < fuel) (rest : List UInt8) (offset : Nat) :
    entries step fuel (some items.length) state ⟨items.flatten ++ rest, offset⟩ =
      .ok (last, ⟨rest, offset + items.flatten.length⟩) := by
  induction all generalizing fuel offset with
  | done =>
      obtain ⟨fuel, rfl⟩ := Nat.exists_eq_succ_of_ne_zero (Nat.ne_zero_of_lt enough)
      rfl
  | entry nonempty reads later inductionHypothesis =>
      obtain ⟨fuel, rfl⟩ := Nat.exists_eq_succ_of_ne_zero (Nat.ne_zero_of_lt enough)
      have continued := inductionHypothesis (Nat.lt_of_succ_lt_succ enough)
      rw [List.flatten_cons, List.append_assoc, List.length_cons, entries, reads]
      simp only [bind, Except.bind, continued]
      rw [List.length_append, Nat.add_assoc]

/-- The entries of a container are read to the last state. -/
theorem reads_readEntries (all : ReadsAll step state items last) :
    Reads (readEntries step (some items.length) state) items.flatten last := by
  intro rest offset
  apply all.entries_eq
  rw [List.length_append]
  exact Nat.lt_succ_of_le (Nat.le_add_right_of_le all.length_le)

end

end FacetedSearch.Cbor
