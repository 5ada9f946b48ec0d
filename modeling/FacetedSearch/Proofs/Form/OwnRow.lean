import FacetedSearch.Proofs.Filter.Labels
import FacetedSearch.Proofs.Form.Rows
import FacetedSearch.Proofs.Registry

/-!
# Which field the row of a field asks for

The form of a registry has one row for each text field and for each date field.  What is put into a
row is looked up by the label of the row, and this need not lead back to the field.  A text field is
looked up by the normal form of its label, which is the label of the field only if this is normal.
Date fields are tried in their order, so that a date field is hidden by an earlier one whose label
its own label contains.
-/

namespace FacetedSearch

open Text

theorem normalizeLabel_isInfix (label : String) :
    (normalizeLabel label).toList <:+: label.toList := by
  unfold normalizeLabel
  rw [String.toList_ofList]
  have cut := (trimEnd_isPrefix (dropEnding autocompleteMarker (trim label.toList))).trans
    ((dropEnding_isPrefix _ _).trans (trimEnd_isPrefix _))
  exact cut.isInfix.trans (List.dropWhile_suffix _).isInfix

/-- Normal forms get shorter and shorter, so that none leads back to a label that is not normal. -/
theorem normalizeLabel_eq_of_normalizeLabel_normalizeLabel {label : String}
    (back : normalizeLabel (normalizeLabel label) = label) : normalizeLabel label = label := by
  have shorter := (normalizeLabel_isInfix (normalizeLabel label)).length_le
  rw [back] at shorter
  exact String.toList_inj.mp ((normalizeLabel_isInfix label).eq_of_length_le shorter)

namespace Registry

variable {registry : Registry} {field other : Field} {before after : List Field}

theorem label_ne_of_text? {label : String} (marked : normalizeLabel label ≠ label)
    (found : registry.text? (normalizeLabel label) = some other) : other.label ≠ label := by
  rw [label_of_text? found]
  exact fun back => marked (normalizeLabel_eq_of_normalizeLabel_normalizeLabel back)

/-- Whether an earlier date field would be found for the label of a field. -/
def hides (field earlier : Field) : Bool :=
  contains field.label.toList earlier.label.toList

theorem date?_label (split : registry.ofKind .date = before ++ field :: after) :
    registry.date? field.label = some ((before.find? (hides field)).getD field) := by
  have itself : hides field field = true := (contains_eq_true_iff _ _).mpr List.infix_rfl
  have kept : (field :: after).find? (hides field) = some field := List.find?_cons_of_pos itself
  change (registry.ofKind .date).find? (hides field) = _
  rw [split, List.find?_append, kept]
  cases before.find? (hides field) <;> rfl

end Registry

namespace Form

variable {fields : List Field} {facets : List Facet} {field : Field}

/-- Of the blank rows for the fields of one kind, one has the label of a field. -/
theorem filter_label_blanks {Row : Type} {labelOf : Row → String} {blank : String → Row}
    (labelled : ∀ label, labelOf (blank label) = label) {kind : FieldKind}
    (membership : field ∈ (Registry.of fields facets).ofKind kind) :
    ((((Registry.of fields facets).ofKind kind).map fun other => blank other.label).filter
      fun row => labelOf row == field.label) = [blank field.label] := by
  have once := List.count_eq_one_of_mem (Registry.nodup_labels_ofKind fields facets kind)
    (List.mem_map_of_mem membership)
  have labels : ((((Registry.of fields facets).ofKind kind).map (·.label)).filter
      fun label => label == field.label) = [field.label] := by
    rw [List.filter_beq, once]
    rfl
  have rows : (((Registry.of fields facets).ofKind kind).map fun other => blank other.label) =
      (((Registry.of fields facets).ofKind kind).map (·.label)).map blank :=
    (List.map_map ..).symm
  rw [rows, List.filter_map]
  simp only [Function.comp_def, labelled, labels, List.map_cons, List.map_nil]

theorem exists_collect_setText (registry : Registry) (today : Calendar.Date) (label : String)
    (operator : Operator) {value : String} (filled : isFilled value = true) :
    ∃ filter, ((ofRegistry registry).setText label value operator).collect registry today =
        [filter] ∧
      filter.kind = .text ∧ filter.AsksFor (registry.text? (normalizeLabel label)) := by
  rw [(isBlank_ofRegistry registry).collect_setText, Filter.ofText?_eq, if_pos filled]
  exact ⟨_, rfl, rfl, Option.map_map ..⟩

theorem exists_collect_setDates (registry : Registry) (today : Calendar.Date) (label : String)
    {lower upper : String} (filled : (isFilled lower || isFilled upper) = true) :
    ∃ filter, ((ofRegistry registry).setDates label lower upper).collect registry today =
        [filter] ∧
      filter.kind = .date ∧ filter.AsksFor (registry.date? (trimmed label)) := by
  obtain ⟨filter, made⟩ := Option.isSome_iff_exists.mp
    ((Filter.isSome_ofDates? registry label (some lower) (some upper) today).trans filled)
  refine ⟨filter, ?_, ?_, Filter.asksFor_of_ofDates? made⟩
  · rw [(isBlank_ofRegistry registry).collect_setDates, made]
    rfl
  · rw [Filter.ofDates?_eq] at made
    obtain ⟨display, -, rfl⟩ := Option.map_eq_some_iff.mp made
    rfl

/-- In the form of a registry each text field and each date field has one row, and setting this row
adds no other and makes one filter.  The row of a text field asks for the field if the label of the
field is in normal form, and otherwise for another text field or for none.  The row of a date field
whose label has no blanks at its ends asks for the first field before it whose label its own label
contains, and for the field itself if there is none. -/
theorem own_row_makes_one_filter (fields : List Field) (facets : List Facet)
    (today : Calendar.Date) :
    let registry := Registry.of fields facets
    let form := ofRegistry registry
    (∀ field ∈ registry.ofKind .text,
      (form.texts.filter fun row => row.label == field.label) = [.blank field.label] ∧
      ∀ value operator, isFilled value = true →
        (form.setText field.label value operator).textLabels = form.textLabels ∧
        ((form.setText field.label value operator).texts.filter fun row =>
          row.label == field.label) = [⟨field.label, value, operator⟩] ∧
        ∃ filter found,
          (form.setText field.label value operator).collect registry today = [filter] ∧
          filter.kind = .text ∧ filter.AsksFor found ∧
          (normalizeLabel field.label = field.label → found = some field) ∧
          (normalizeLabel field.label ≠ field.label →
            ∀ other ∈ found, other ∈ registry.ofKind .text ∧ other.label ≠ field.label)) ∧
    ∀ before field after, registry.ofKind .date = before ++ field :: after →
      (form.dates.filter fun row => row.label == field.label) = [.blank field.label] ∧
      ∀ lower upper, (isFilled lower || isFilled upper) = true →
        (form.setDates field.label lower upper).dateLabels = form.dateLabels ∧
        ((form.setDates field.label lower upper).dates.filter fun row =>
          row.label == field.label) = [⟨field.label, lower, upper⟩] ∧
        ∃ filter, (form.setDates field.label lower upper).collect registry today = [filter] ∧
          filter.kind = .date ∧
          (trimmed field.label = field.label →
            filter.AsksFor (some ((before.find? fun earlier =>
              contains field.label.toList earlier.label.toList).getD field))) := by
  intro registry form
  constructor
  · intro field membership
    have single : (form.texts.filter fun row => row.label == field.label) =
        [.blank field.label] := filter_label_blanks (fun _ => rfl) membership
    refine ⟨single, ?_⟩
    intro value operator filled
    have present : field.label ∈ form.textLabels := by
      rw [textLabels_ofRegistry]
      exact List.mem_map_of_mem membership
    refine ⟨textLabels_setText present value operator,
      filter_label_editRow (fun _ => rfl) (fun _ => rfl) single, ?_⟩
    obtain ⟨filter, collected, kind, asks⟩ :=
      exists_collect_setText registry today field.label operator filled
    refine ⟨filter, _, collected, kind, asks, ?_, ?_⟩
    · intro normal
      rw [normal]
      exact Registry.text?_of_mem membership normal
    · intro marked other found
      exact ⟨List.mem_of_find?_eq_some found, Registry.label_ne_of_text? marked found⟩
  · intro before field after split
    have membership : field ∈ registry.ofKind .date := by
      rw [split]
      exact List.mem_append_right before List.mem_cons_self
    have single : (form.dates.filter fun row => row.label == field.label) =
        [.blank field.label] := filter_label_blanks (fun _ => rfl) membership
    refine ⟨single, ?_⟩
    intro lower upper filled
    have present : field.label ∈ form.dateLabels := by
      rw [dateLabels_ofRegistry]
      exact List.mem_map_of_mem membership
    refine ⟨dateLabels_setDates present lower upper,
      filter_label_editRow (fun _ => rfl) (fun _ => rfl) single, ?_⟩
    obtain ⟨filter, collected, kind, asks⟩ :=
      exists_collect_setDates registry today field.label filled
    refine ⟨filter, collected, kind, ?_⟩
    intro tidy
    rw [tidy, Registry.date?_label split] at asks
    exact asks

/-- A registry with a marked text label and a date label that holds an earlier one. -/
def hidingRegistry : Registry :=
  .of [⟨"Nome (AUTO)", "nome_s", .text⟩, ⟨"Tributo", "tributo_s", .text⟩,
    ⟨"Data", "dt_tdt", .date⟩, ⟨"Juntada", "dt_juntada_tdt", .date⟩,
    ⟨"Data de Protocolo", "dt_protocolo_tdt", .date⟩] []

theorem own_row_makes_one_filter_hidingRegistry :
    let today : Calendar.Date := ⟨2024, 6, 1, by decide⟩
    let form := ofRegistry hidingRegistry
    let tribute : Field := ⟨"Tributo", "tributo_s", .text⟩
    let joining : Field := ⟨"Juntada", "dt_juntada_tdt", .date⟩
    let protocol : Field := ⟨"Data de Protocolo", "dt_protocolo_tdt", .date⟩
    let day : Field := ⟨"Data", "dt_tdt", .date⟩
    (tribute ∈ hidingRegistry.ofKind .text ∧ isFilled "ACT" = true ∧
      normalizeLabel tribute.label = tribute.label ∧
      ∃ filter, (form.setText "Tributo" "ACT" .equals).collect hidingRegistry today = [filter] ∧
        filter.AsksFor (some tribute)) ∧
    (hidingRegistry.ofKind .date = [day] ++ joining :: [protocol] ∧
      (isFilled "" || isFilled "2024-05-31") = true ∧ trimmed joining.label = joining.label ∧
      ∃ filter, (form.setDates "Juntada" "" "2024-05-31").collect hidingRegistry today = [filter] ∧
        filter.AsksFor (some joining)) ∧
    (hidingRegistry.ofKind .date = [day, joining] ++ protocol :: [] ∧
      trimmed protocol.label = protocol.label ∧
      ∃ filter, (form.setDates "Data de Protocolo" "" "2024-05-31").collect hidingRegistry today =
          [filter] ∧
        filter.AsksFor (some day)) := by
  intro today form tribute joining protocol day
  obtain ⟨texts, dates⟩ := own_row_makes_one_filter
    [⟨"Nome (AUTO)", "nome_s", .text⟩, tribute, day, joining, protocol] [] today
  have value : isFilled "ACT" = true := by decide +kernel
  have bound : (isFilled "" || isFilled "2024-05-31") = true := by decide +kernel
  have isText : tribute ∈ hidingRegistry.ofKind .text := by decide +kernel
  have normal : normalizeLabel tribute.label = tribute.label := by decide +kernel
  have second : hidingRegistry.ofKind .date = [day] ++ joining :: [protocol] := by decide +kernel
  have third : hidingRegistry.ofKind .date = [day, joining] ++ protocol :: [] := by decide +kernel
  have joiningTidy : trimmed joining.label = joining.label := by decide +kernel
  have protocolTidy : trimmed protocol.label = protocol.label := by decide +kernel
  refine ⟨⟨isText, value, normal, ?_⟩, ⟨second, bound, joiningTidy, ?_⟩, third, protocolTidy, ?_⟩
  · obtain ⟨-, reached⟩ := texts tribute isText
    obtain ⟨-, -, filter, found, collected, -, asks, own, -⟩ := reached "ACT" .equals value
    rw [own normal] at asks
    exact ⟨filter, collected, asks⟩
  · have first : ([day].find? fun earlier =>
        contains joining.label.toList earlier.label.toList).getD joining = joining := by
      decide +kernel
    obtain ⟨-, reached⟩ := dates [day] joining [protocol] second
    obtain ⟨-, -, filter, collected, -, asks⟩ := reached "" "2024-05-31" bound
    have own := asks joiningTidy
    rw [first] at own
    exact ⟨filter, collected, own⟩
  · have first : ([day, joining].find? fun earlier =>
        contains protocol.label.toList earlier.label.toList).getD protocol = day := by
      decide +kernel
    obtain ⟨-, reached⟩ := dates [day, joining] protocol [] third
    obtain ⟨-, -, filter, collected, -, asks⟩ := reached "" "2024-05-31" bound
    have other := asks protocolTidy
    rw [first] at other
    exact ⟨filter, collected, other⟩

/-- The row of the marked label asks for nothing, and the row of the later date for the earlier. -/
theorem not_reached_by_own_row :
    let today : Calendar.Date := ⟨2024, 6, 1, by decide⟩
    let form := ofRegistry hidingRegistry
    (form.setText "Nome (AUTO)" "x" .contains).collect hidingRegistry today =
      [⟨"Nome", "x", some .contains, .text, none⟩] ∧
    (form.setDates "Data de Protocolo" "2024-01-01" "").collect hidingRegistry today =
      [⟨"Data de Protocolo", "A partir de 01/01/2024", none, .date,
        some (.dateRange ⟨"dt_tdt", some "2024-01-01", none, today⟩)⟩] ∧
    (¬∀ field ∈ hidingRegistry.ofKind .text, ∀ value operator, isFilled value = true →
      ∃ filter, (form.setText field.label value operator).collect hidingRegistry today = [filter] ∧
        filter.AsksFor (some field)) ∧
    ¬∀ field ∈ hidingRegistry.ofKind .date, ∀ lower upper,
      (isFilled lower || isFilled upper) = true →
      ∃ filter, (form.setDates field.label lower upper).collect hidingRegistry today = [filter] ∧
        filter.AsksFor (some field) := by
  intro today form
  have shownOnly : (form.setText "Nome (AUTO)" "x" .contains).collect hidingRegistry today =
      [⟨"Nome", "x", some .contains, .text, none⟩] := by decide +kernel
  have earlier : (form.setDates "Data de Protocolo" "2024-01-01" "").collect hidingRegistry today =
      [⟨"Data de Protocolo", "A partir de 01/01/2024", none, .date,
        some (.dateRange ⟨"dt_tdt", some "2024-01-01", none, today⟩)⟩] := by decide +kernel
  refine ⟨shownOnly, earlier, ?_, ?_⟩
  · intro reached
    obtain ⟨filter, collected, asks⟩ := reached ⟨"Nome (AUTO)", "nome_s", .text⟩
      (by decide +kernel) "x" .contains (by decide +kernel)
    rw [shownOnly] at collected
    obtain rfl := (List.cons.inj collected).1
    cases asks
  · intro reached
    obtain ⟨filter, collected, asks⟩ := reached ⟨"Data de Protocolo", "dt_protocolo_tdt", .date⟩
      (by decide +kernel) "2024-01-01" "" (by decide +kernel)
    rw [earlier] at collected
    obtain rfl := (List.cons.inj collected).1
    have sameField := Option.some.inj asks
    revert sameField
    decide

end Form

end FacetedSearch
