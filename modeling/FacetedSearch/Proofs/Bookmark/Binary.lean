import FacetedSearch.Bookmark
import FacetedSearch.Proofs.Cbor.Reader
import FacetedSearch.Proofs.Table

/-!
The binary form gives a bookmark back.

Texts, lists of texts and the map of them are read as they were written, and then the three fields,
each of which is still unread when its name comes.  All lengths in the binary form are numbers of 64
bits.  No length in memory is larger, but a list here may be of any length, so it is asked that
the form itself is shorter than this.
-/

namespace FacetedSearch.Bookmark

open Cbor

@[simp]
theorem writeText_ne_nil (text : String) : writeText text ≠ [] :=
  List.append_ne_nil_of_left_ne_nil (writeHeader_ne_nil _ _) _

theorem reads_writeText {text : String} (fits : (writeText text).length < UInt64.size) :
    Reads Input.text (writeText text) text := by
  have shorter : (Utf8.encode text.toList).length ≤ (writeText text).length := by
    rw [writeText, List.length_append]
    exact Nat.le_add_left _ _
  have reads := reads_text (Nat.lt_of_le_of_lt shorter fits)
  rw [String.ofList_toList] at reads
  exact reads

/-- The texts of a list are read one after another, and the last one lies on top. -/
theorem readsAll_writeText (texts read : List String)
    (fits : ∀ text ∈ texts, (writeText text).length < UInt64.size) :
    ReadsAll (fun texts input => do
      let (text, input) ← Input.text input
      return (text :: texts, input)) read (texts.map writeText) (texts.reverse ++ read) := by
  induction texts generalizing read with
  | nil => exact .done
  | cons text texts inductionHypothesis =>
      obtain ⟨first, later⟩ := List.forall_mem_cons.mp fits
      have continued := inductionHypothesis (text :: read) later
      rw [List.reverse_cons, List.append_assoc]
      exact .entry (writeText_ne_nil text) ((reads_writeText first).map (· :: read)) continued

section

variable {Item State : Type} {write : Item → List UInt8} {items : List Item}
  {header : List UInt8} {bound : Nat}

/-- What is written for an item is no longer than what is written for the container. -/
theorem forall_length_lt (fits : (header ++ items.flatMap write).length < bound) :
    ∀ item ∈ items, (write item).length < bound := by
  intro item membership
  have among : write item ∈ items.map write := List.mem_map_of_mem membership
  have part := (List.sublist_flatten_of_mem among).length_le
  rw [List.length_append, List.flatMap_def] at fits
  exact Nat.lt_of_le_of_lt (Nat.le_add_left_of_le part) fits

/-- There are no more items than bytes. -/
theorem length_lt_of_readsAll {step : State → Input → Except Fault (State × Input)}
    {state last : State} (all : ReadsAll step state (items.map write) last)
    (fits : (header ++ items.flatMap write).length < bound) : items.length < bound := by
  have entries := all.length_le
  rw [List.length_map] at entries
  rw [List.length_append, List.flatMap_def] at fits
  exact Nat.lt_of_le_of_lt (Nat.le_add_left_of_le entries) fits

end

theorem reads_writeTexts {texts : List String} (fits : (writeTexts texts).length < UInt64.size) :
    Reads Input.texts (writeTexts texts) texts := by
  have all := readsAll_writeText texts [] (forall_length_lt fits)
  apply (reads_arrayHeader (length_lt_of_readsAll all fits)).behind nofun
  intro start
  have entries := (reads_readEntries all).map List.reverse
  rw [List.length_map, List.append_nil, List.reverse_reverse] at entries
  exact entries

/-- A list of texts under its key. -/
def writeEntry (entry : String × List String) : List UInt8 :=
  writeText entry.1 ++ writeTexts entry.2

theorem readsAll_writeEntry (entries : List (String × List String)) (read : FacetLists)
    (fits : ∀ entry ∈ entries, (writeEntry entry).length < UInt64.size) :
    ReadsAll (fun table input => do
      let (key, input) ← Input.text input
      let (texts, input) ← Input.texts input
      return (table.set key texts, input)) read (entries.map writeEntry)
      (entries.foldl (fun table entry => table.set entry.1 entry.2) read) := by
  induction entries generalizing read with
  | nil => exact .done
  | cons entry entries inductionHypothesis =>
      obtain ⟨first, later⟩ := List.forall_mem_cons.mp fits
      rw [writeEntry, List.length_append] at first
      have key := reads_writeText (Nat.lt_of_le_of_lt (Nat.le_add_right _ _) first)
      have texts := reads_writeTexts (Nat.lt_of_le_of_lt (Nat.le_add_left _ _) first)
      have nonempty : writeEntry entry ≠ [] :=
        List.append_ne_nil_of_left_ne_nil (writeText_ne_nil _) _
      have continued := inductionHypothesis (read.set entry.1 entry.2) later
      have stored := key.bind (fun key input => do
        let (texts, input) ← Input.texts input
        return (read.set key texts, input)) (texts.map (read.set entry.1))
      exact .entry nonempty stored continued

theorem reads_writeLists {lists : FacetLists} (fits : (writeLists lists).length < UInt64.size) :
    Reads Input.textLists (writeLists lists) lists := by
  have all := readsAll_writeEntry lists.entries .empty (forall_length_lt fits)
  have stored : lists.entries.foldl (fun table entry => table.set entry.1 entry.2) .empty = lists :=
    Table.ofList_entries lists
  apply (reads_mapHeader (length_lt_of_readsAll all fits)).behind nofun
  intro start
  have entries := reads_readEntries all
  rw [List.length_map, stored] at entries
  exact entries

section

variable {isOpen : Bool} {fields : Partial} {input rest : Input}

theorem readField_freeText
    (named : input.name isOpen = .ok (Utf8.encode "free_text".toList, rest))
    (unread : fields.freeText = none) :
    readField isOpen fields input = (do
      let (text, rest) ← rest.text
      return ({ fields with freeText := some text }, rest)) := by
  rw [readField, named]
  simp only [bind, Except.bind, if_true, unread, Option.isSome_none, Bool.false_eq_true, if_false]

theorem readField_facets (named : input.name isOpen = .ok (Utf8.encode "facets".toList, rest))
    (unread : fields.facets = none) :
    readField isOpen fields input = (do
      let (lists, rest) ← rest.textLists
      return ({ fields with facets := some lists }, rest)) := by
  have notFreeText : Utf8.encode "facets".toList ≠ Utf8.encode "free_text".toList := by decide
  rw [readField, named]
  simp only [bind, Except.bind, notFreeText, if_true, unread, Option.isSome_none,
    Bool.false_eq_true, if_false]

theorem readField_page (named : input.name isOpen = .ok (Utf8.encode "page".toList, rest))
    (unread : fields.page = none) :
    readField isOpen fields input = (do
      let (page, rest) ← rest.word
      return ({ fields with page := some page }, rest)) := by
  have notFreeText : Utf8.encode "page".toList ≠ Utf8.encode "free_text".toList := by decide
  have notFacets : Utf8.encode "page".toList ≠ Utf8.encode "facets".toList := by decide
  rw [readField, named]
  simp only [bind, Except.bind, notFreeText, notFacets, if_true, unread, Option.isSome_none,
    Bool.false_eq_true, if_false]

/-- A field is its name, and what the reader of that name reads. -/
theorem reads_field {Value : Type} {name : String} {value : Value} {written : List UInt8}
    {read : Input → Except Fault (Value × Input)} (store : Value → Partial)
    (short : (Utf8.encode name.toList).length ≤ chunkSize)
    (dispatch : ∀ {input rest}, input.name isOpen = .ok (Utf8.encode name.toList, rest) →
      readField isOpen fields input = (do
        let (value, rest) ← read rest
        return (store value, rest)))
    (reads : Reads read written value) :
    Reads (readField isOpen fields) (writeText name ++ written) (store value) := by
  have readsName : Reads (Input.name · isOpen) (writeText name) (Utf8.encode name.toList) :=
    reads_name isOpen short
  intro rest offset
  have stored := reads.map store rest (offset + (writeText name).length)
  rw [List.append_assoc, dispatch (readsName (written ++ rest) offset), List.length_append,
    ← Nat.add_assoc]
  exact stored

end

/-- The fields of a bookmark in its binary form. -/
def writeFields (bookmark : Bookmark) : List (List UInt8) :=
  [writeText "free_text" ++ writeText bookmark.freeText,
    writeText "facets" ++ writeLists bookmark.facets,
    writeText "page" ++ writeHeader wordKind bookmark.page.toNat]

theorem encode_eq (bookmark : Bookmark) :
    bookmark.encode = writeHeader mapKind 3 ++ (writeFields bookmark).flatten := by
  simp [encode, writeFields]

theorem readsAll_writeFields {bookmark : Bookmark} (fits : bookmark.encode.length < UInt64.size) :
    ReadsAll (readField false) .unread (writeFields bookmark)
      ⟨some bookmark.freeText, some bookmark.facets, some bookmark.page⟩ := by
  have nonempty (name : String) (written : List UInt8) : writeText name ++ written ≠ [] :=
    List.append_ne_nil_of_left_ne_nil (writeText_ne_nil name) written
  -- A field may not come twice, so each is read from a state in which it is still missing.
  simp only [encode, List.length_append] at fits
  have text : (writeText bookmark.freeText).length < UInt64.size := by omega
  have lists : (writeLists bookmark.facets).length < UInt64.size := by omega
  have freeText : Reads (readField false .unread) _ ⟨some bookmark.freeText, none, none⟩ :=
    reads_field (fun text => ⟨some text, none, none⟩) (by decide) (readField_freeText · rfl)
      (reads_writeText text)
  have facets : Reads (readField false ⟨some bookmark.freeText, none, none⟩) _
      ⟨some bookmark.freeText, some bookmark.facets, none⟩ :=
    reads_field (fun lists => ⟨some bookmark.freeText, some lists, none⟩) (by decide)
      (readField_facets · rfl) (reads_writeLists lists)
  have page : Reads (readField false ⟨some bookmark.freeText, some bookmark.facets, none⟩) _
      ⟨some bookmark.freeText, some bookmark.facets, some bookmark.page⟩ :=
    reads_field (fun page => ⟨some bookmark.freeText, some bookmark.facets, some page⟩)
      (by decide) (readField_page · rfl) (reads_word bookmark.page)
  have afterFacets := ReadsAll.entry (nonempty _ _) page .done
  exact .entry (nonempty _ _) freeText (.entry (nonempty _ _) facets afterFacets)

/-- A bookmark is read back from its binary form. -/
theorem decode_encode {bookmark : Bookmark} (fits : bookmark.encode.length < UInt64.size) :
    decode bookmark.encode = .ok bookmark := by
  have fields : Reads (readEntries (readField false) (some 3) .unread)
      (writeFields bookmark).flatten _ :=
    reads_readEntries (readsAll_writeFields fits)
  have header : Reads Input.header (writeHeader mapKind 3) (.map (some 3)) :=
    reads_mapHeader (by decide)
  have found := untagged_append header nofun ((writeFields bookmark).flatten ++ []) 0
  rw [decode, encode_eq, ← List.append_nil (writeFields bookmark).flatten, found]
  simp only [bind, Except.bind, Option.isNone_some, fields [] _]
  rfl

end FacetedSearch.Bookmark
