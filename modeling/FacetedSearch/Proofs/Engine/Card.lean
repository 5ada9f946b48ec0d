import FacetedSearch.Proofs.Engine.Flattening
import FacetedSearch.Proofs.Registry
import FacetedSearch.Proofs.Text.Blank

/-!
# What a card shows

A card has one line for each label whose stored field comes out filled, in the order of the labels.
What counts as missing is decided once, on the flattened text of a field, so the line of a label,
the value found under it and the title never disagree.
-/

namespace FacetedSearch

open Text (isFilled)

/-- The flattened text of a stored field, unless it is missing. -/
def StoredDocument.text? (document : StoredDocument) (field : String) : Option String :=
  (document.lookup field).map (·.flatten)

theorem StoredDocument.line?_eq_filter (document : StoredDocument) (field : String) :
    document.line? field = (document.text? field).filter isFilled := by
  unfold line? text?
  cases document.lookup field with
  | none => rfl
  | some stored =>
      have blank : (Text.trim stored.flatten.toList).isEmpty = !isFilled stored.flatten := by
        rw [Bool.eq_iff_iff, List.isEmpty_iff, Text.trim_eq_nil_iff]
        simp [isFilled]
      simp only [Option.bind_eq_bind, Option.bind_some, Option.map_some, blank, Option.filter_some]
      cases isFilled stored.flatten <;> rfl

theorem StoredDocument.line?_eq_some_iff {document : StoredDocument} {field text : String} :
    document.line? field = some text ↔ document.text? field = some text ∧ isFilled text = true := by
  rw [line?_eq_filter, Option.filter_eq_some_iff]

theorem StoredDocument.isSome_line? (document : StoredDocument) (field : String) :
    (document.line? field).isSome = true ↔
      ∃ stored, document.lookup field = some stored ∧ isFilled stored.flatten = true := by
  simp [Option.isSome_iff_exists, line?_eq_some_iff, text?]

/-- A timestamp is shown with slashes, so a filled text is shown as a filled text. -/
theorem isFilled_displayTimestamp {text : String} (filled : isFilled text = true) :
    isFilled (Calendar.displayTimestamp text) = true := by
  unfold Calendar.displayTimestamp
  split
  next moment _ =>
    have slash : '/' ∈ moment.text := by
      simp [Calendar.Minute.text, Calendar.Date.dayFirstText]
    unfold isFilled
    rw [String.toList_ofList, List.any_eq_true]
    exact ⟨'/', slash, rfl⟩
  next => exact filled

namespace Card

variable {document : StoredDocument} {label field : String}

/-- The stored fields that are shown as dates. -/
def timeFields : List String :=
  ["dt_anexacao_tdt", "dt_protocolo_tdt", "dt_juntada_tdt"]

/-- The stored fields that a card is made of. -/
def keys : List String :=
  "titulo_s" :: "url_pdf_s" :: "url_pdf_blank_s" :: labels.map (·.2)

@[simp]
theorem nodup_labels : (labels.map (·.1)).Nodup := by
  decide

theorem holdsTime_eq : ∀ row ∈ labels, holdsTime row.2 = decide (row.2 ∈ timeFields) := by
  decide +kernel

/-! ## Lines -/

theorem line_eq_map (document : StoredDocument) (label field : String) :
    line document label field = (document.line? field).map fun text =>
      ⟨label, if holdsTime field then Calendar.displayTimestamp text else text⟩ := by
  unfold line
  cases document.line? field <;> rfl

theorem lines_eq (document : StoredDocument) (index : UInt64) :
    (ofStored document index).lines = labels.filterMap fun row => line document row.1 row.2 :=
  rfl

theorem labels_lines (document : StoredDocument) (index : UInt64) :
    (ofStored document index).lines.map (·.label) =
      (labels.filter fun row => (document.line? row.2).isSome).map (·.1) := by
  rw [lines_eq, List.map_filterMap, ← List.filterMap_eq_map, List.filterMap_filter]
  apply List.filterMap_congr
  intro row _
  rw [line_eq_map]
  cases document.line? row.2 <;> rfl

theorem labels_lines_sublist (document : StoredDocument) (index : UInt64) :
    ((ofStored document index).lines.map (·.label)).Sublist (labels.map (·.1)) := by
  rw [labels_lines]
  exact List.filter_sublist.map _

@[simp]
theorem nodup_labels_lines (document : StoredDocument) (index : UInt64) :
    ((ofStored document index).lines.map (·.label)).Nodup :=
  nodup_labels.sublist (labels_lines_sublist document index)

theorem mem_labels_lines_iff {row : String × String} (membership : row ∈ labels) (index : UInt64) :
    row.1 ∈ (ofStored document index).lines.map (·.label) ↔
      (document.line? row.2).isSome = true := by
  rw [labels_lines, List.mem_map]
  constructor
  · rintro ⟨other, kept, same⟩
    obtain ⟨otherMembership, present⟩ := List.mem_filter.mp kept
    rwa [← List.inj_on_of_nodup_map nodup_labels otherMembership membership same]
  · intro present
    exact ⟨row, List.mem_filter.mpr ⟨membership, present⟩, rfl⟩

/-- A label finds the text of its field, and it finds nothing where the field is missing or blank.
-/
theorem line?_of_mem {row : String × String} (membership : row ∈ labels) (index : UInt64) :
    (ofStored document index).line? row.1 = (document.line? row.2).map fun text =>
      if row.2 ∈ timeFields then Calendar.displayTimestamp text else text := by
  unfold line?
  cases present : document.line? row.2 with
  | none =>
      have absent : row.1 ∉ (ofStored document index).lines.map (·.label) := by
        rw [mem_labels_lines_iff membership, present]
        simp
      rw [List.find?_eq_none.mpr]
      · rfl
      · intro line lineMembership matched
        exact absent (eq_of_beq matched ▸ List.mem_map_of_mem lineMembership)
  | some text =>
      have lineMembership : (⟨row.1, if row.2 ∈ timeFields then Calendar.displayTimestamp text
          else text⟩ : CardLine) ∈ (ofStored document index).lines := by
        rw [lines_eq]
        refine List.mem_filterMap.mpr ⟨row, membership, ?_⟩
        rw [line_eq_map, present, holdsTime_eq row membership, Option.map_some]
        simp only [decide_eq_true_eq]
      rw [find?_key (·.label) (nodup_labels_lines document index) lineMembership]
      rfl

theorem isFilled_of_line {value : CardLine} (made : line document label field = some value) :
    isFilled value.value = true := by
  rw [line_eq_map, Option.map_eq_some_iff] at made
  obtain ⟨text, present, rfl⟩ := made
  have filled := (StoredDocument.line?_eq_some_iff.mp present).2
  cases holdsTime field with
  | true => exact isFilled_displayTimestamp filled
  | false => exact filled

theorem isFilled_of_mem_lines {index : UInt64} {value : CardLine}
    (membership : value ∈ (ofStored document index).lines) : isFilled value.value = true := by
  obtain ⟨row, -, made⟩ := List.mem_filterMap.mp membership
  exact isFilled_of_line made

/-! ## Title -/

/-- The first filled text among some fields is that of the first field with a line. -/
theorem find?_filterMap_text? (document : StoredDocument) (fields : List String) :
    (fields.filterMap document.text?).find? isFilled = fields.findSome? document.line? := by
  induction fields with
  | nil => rfl
  | cons field fields inductionHypothesis =>
      rw [List.filterMap_cons, List.findSome?_cons, document.line?_eq_filter]
      cases document.text? field with
      | none => exact inductionHypothesis
      | some text =>
          cases filled : isFilled text with
          | false => simp [Option.filter, filled, inductionHypothesis]
          | true => simp [Option.filter, filled]

theorem title_eq (document : StoredDocument) (index : UInt64) :
    (ofStored document index).title =
      ((["titulo_s", "tipo_documento_s"].filterMap document.text?).find? isFilled).getD
        untitled := by
  rw [find?_filterMap_text?]
  unfold ofStored
  cases titled : document.line? "titulo_s" with
  | none => cases kind : document.line? "tipo_documento_s" <;> simp [titled, kind]
  | some title => simp [titled]

@[simp]
theorem isFilled_title (document : StoredDocument) (index : UInt64) :
    isFilled (ofStored document index).title = true := by
  rw [title_eq]
  cases found : (["titulo_s", "tipo_documento_s"].filterMap document.text?).find? isFilled with
  | none => decide
  | some text => exact List.find?_some found

/-! ## Fields that play no part -/

theorem ofStored_congr {document other : StoredDocument}
    (agree : ∀ key ∈ keys, other.text? key = document.text? key) (index : UInt64) :
    ofStored other index = ofStored document index := by
  have same : ∀ key ∈ keys, other.line? key = document.line? key := by
    intro key membership
    rw [StoredDocument.line?_eq_filter, StoredDocument.line?_eq_filter, agree key membership]
  have sameLines : (labels.filterMap fun row => line other row.1 row.2) =
      labels.filterMap fun row => line document row.1 row.2 := by
    apply List.filterMap_congr
    intro row membership
    have key : row.2 ∈ keys := by
      simp only [keys, List.mem_cons]
      exact .inr (.inr (.inr (List.mem_map_of_mem membership)))
    rw [line_eq_map, line_eq_map, same row.2 key]
  unfold ofStored
  rw [same "titulo_s" (by decide), same "tipo_documento_s" (by decide),
    same "url_pdf_s" (by decide), same "url_pdf_blank_s" (by decide), sameLines]

/-- The labels of a card keep the order of the table, and a label is there exactly when its field is
stored and filled; it finds the text of the field, as a date for the fields that hold dates.  No
value is blank, and neither is the title.  Only the flattened texts of the fields of the table, the
title and the addresses count.  The text of a list joins the texts of its leaves, whatever the
grouping and whatever items without text are among them. -/
theorem ofStored_shows_filled_fields (document : StoredDocument) (index : UInt64) :
    (((ofStored document index).lines.map (·.label)).Sublist (labels.map (·.1)) ∧
      ((ofStored document index).lines.map (·.label)).Nodup) ∧
    (∀ row ∈ labels,
      (row.1 ∈ (ofStored document index).lines.map (·.label) ↔
        ∃ stored, document.lookup row.2 = some stored ∧ isFilled stored.flatten = true) ∧
      (ofStored document index).line? row.1 =
        ((document.text? row.2).filter isFilled).map fun text =>
          if row.2 ∈ timeFields then Calendar.displayTimestamp text else text) ∧
    (∀ line ∈ (ofStored document index).lines, isFilled line.value = true) ∧
    ((ofStored document index).title =
        ((["titulo_s", "tipo_documento_s"].filterMap document.text?).find? isFilled).getD untitled ∧
      isFilled (ofStored document index).title = true) ∧
    (∀ other : StoredDocument, (∀ key ∈ keys, other.text? key = document.text? key) →
      ofStored other index = ofStored document index) ∧
    (∀ items, (JsonValue.array items).flatten = ", ".intercalate
      (((leavesOf items).map (·.leafText)).filter fun text => !text.isEmpty)) ∧
    ∀ items regrouped, Relation.EqvGen Regroups items regrouped →
      (JsonValue.array items).flatten = (JsonValue.array regrouped).flatten := by
  refine ⟨⟨labels_lines_sublist document index, nodup_labels_lines document index⟩, ?_,
    fun _ => isFilled_of_mem_lines, ⟨title_eq document index, isFilled_title document index⟩,
    fun _ agree => ofStored_congr agree index, flatten_array, fun _ _ => flatten_of_regroups⟩
  intro row membership
  constructor
  · rw [mem_labels_lines_iff membership, StoredDocument.isSome_line?]
  · rw [line?_of_mem membership, StoredDocument.line?_eq_filter]

/-- A document with a blank title, a date, lists within a list, and fields without text. -/
def mixedDocument : StoredDocument :=
  [("dt_protocolo_tdt", .string "2024-01-15T23:30:00-03:00"),
    ("nome_contribuinte_s", .array [.null]),
    ("tipo_documento_s", .string "Despacho"), ("titulo_s", .string " "),
    ("tributo_act_s", .array [.string "ITR", .array [.null, .array [.string "IPI"]]]),
    ("versao", .bool true)]

theorem ofStored_shows_filled_fields_mixedDocument :
    (ofStored mixedDocument 2).line? "Data protocolo" = some "16/01/2024 02:30" ∧
    (ofStored mixedDocument 2).line? "Tributo ACT" = some "ITR, IPI" ∧
    (ofStored mixedDocument 2).line? "Nome do Contribuinte" = none ∧
    (ofStored mixedDocument 2).title = "Despacho" ∧
    ofStored (mixedDocument.filter fun member => member.1 ≠ "versao") 2 =
      ofStored mixedDocument 2 ∧
    (JsonValue.array [.string "ITR", .array [.null, .array [.string "IPI"]]]).flatten =
      (JsonValue.array [.string "ITR", .null, .array [.string "IPI"]]).flatten := by
  obtain ⟨-, lines, -, ⟨title, -⟩, others, -, regrouping⟩ :=
    ofStored_shows_filled_fields mixedDocument 2
  refine ⟨?_, ?_, ?_, ?_, others _ (by decide +kernel), regrouping _ _ ?_⟩
  · rw [(lines ("Data protocolo", "dt_protocolo_tdt") (by decide)).2]
    decide +kernel
  · rw [(lines ("Tributo ACT", "tributo_act_s") (by decide)).2]
    decide +kernel
  · rw [(lines ("Nome do Contribuinte", "nome_contribuinte_s") (by decide)).2]
    decide +kernel
  · rw [title]
    decide +kernel
  · exact .symm _ _ (.rel _ _ (.nest [.string "ITR"] [.null, .array [.string "IPI"]] []))

end Card

end FacetedSearch
