import FacetedSearch.Proofs.Filter.Building
import Mathlib.Data.List.Find

/-!
# Which field a label asks for

A filter puts its label into normal form and then looks it up, and the look-up does the same again.
This is one normal form too many when a label carries the marker twice: the registry takes one away
and the filter takes both, so that they look for different labels.  A date filter trims its label,
and the registry does not.  So a label that begins or ends with a blank may hold a registered label
with this blank, and the filter does not see it.

Apart from such labels the filter asks for the field that the registry finds.
-/

namespace FacetedSearch

open Text

/-! ## Normal forms -/

theorem dropEnding_isPrefix (ending text : List Char) : dropEnding ending text <+: text := by
  unfold dropEnding
  split
  next => exact List.take_prefix _ _
  next => exact List.prefix_rfl

@[simp]
theorem trimmed_normalizeLabel (label : String) :
    trimmed (normalizeLabel label) = normalizeLabel label := by
  have opened : trimStart (dropEnding autocompleteMarker (trim label.toList)) =
      dropEnding autocompleteMarker (trim label.toList) :=
    trimStart_of_isPrefix (dropEnding_isPrefix _ _) (trimStart_trim _)
  unfold trimmed normalizeLabel
  rw [String.toList_ofList, trim, trimStart_of_isPrefix (trimEnd_isPrefix _) opened,
    trimEnd_trimEnd]

theorem normalizeLabel_eq_self_iff {label : String} (tidy : trimmed label = label) :
    normalizeLabel label = label ↔ ¬autocompleteMarker <:+ label.toList := by
  have trimmedText : trim label.toList = label.toList := by
    rw [← String.toList_ofList (l := trim label.toList)]
    exact congrArg String.toList tidy
  have trimmedEnd : trimEnd label.toList = label.toList := by
    rw [← trimmedText]
    exact trimEnd_trim _
  unfold normalizeLabel dropEnding
  rw [trimmedText, ← String.toList_inj, String.toList_ofList]
  constructor
  · intro same marked
    rw [if_pos (List.isSuffixOf_iff_suffix.mpr marked)] at same
    have kept := (trimEnd_isPrefix (label.toList.take
      (label.toList.length - autocompleteMarker.length))).length_le
    have marker := marked.length_le
    have seven : autocompleteMarker.length = 7 := rfl
    rw [same, List.length_take] at kept
    omega
  · intro unmarked
    rw [if_neg fun marked => unmarked (List.isSuffixOf_iff_suffix.mp marked)]
    exact trimmedEnd

/-- A normal form is normal unless it still carries a marker. -/
theorem normalizeLabel_normalizeLabel_iff (label : String) :
    normalizeLabel (normalizeLabel label) = normalizeLabel label ↔
      ¬autocompleteMarker <:+ (normalizeLabel label).toList :=
  normalizeLabel_eq_self_iff (trimmed_normalizeLabel label)

namespace Registry

variable {registry : Registry} {label : String} {field : Field}

theorem label_of_text? (found : registry.text? label = some field) :
    field.label = normalizeLabel label := by
  have matched := List.find?_some found
  exact eq_of_beq matched

theorem eq_of_find?_ofKind {kind : FieldKind} {matches? : Field → Bool} {other : Field}
    (found : ((Registry.mk [field] []).ofKind kind).find? matches? = some other) :
    other = field := by
  have membership := List.mem_of_find?_eq_some found
  exact List.mem_singleton.mp (List.mem_filter.mp membership).1

theorem text?_normalizeLabel
    (normal : normalizeLabel (normalizeLabel label) = normalizeLabel label) :
    registry.text? (normalizeLabel label) = registry.text? label := by
  unfold text?
  rw [normal]

theorem date?_trimmed (tidy : ∀ field ∈ registry.ofKind .date, trimmed field.label = field.label)
    (label : String) : registry.date? (trimmed label) = registry.date? label := by
  apply List.find?_congr
  intro field membership
  have trimmedLabel := congrArg String.toList (tidy field membership)
  unfold trimmed at trimmedLabel ⊢
  rw [String.toList_ofList] at trimmedLabel ⊢
  exact contains_trim trimmedLabel label.toList

end Registry

namespace Filter

variable {registry : Registry} {label value : String} {operator : Operator}
  {lower upper : Option String} {today : Calendar.Date} {filter : Filter}

/-- A filter asks for the field that was found, or for nothing if none was. -/
def AsksFor (filter : Filter) (found : Option Field) : Prop :=
  filter.criterion.map Criterion.field = found.map (·.engineField)

theorem AsksFor.exists_eq_some {field : Field} {found : Option Field}
    (asked : filter.AsksFor (some field)) (asks : filter.AsksFor found) :
    ∃ other, found = some other := by
  have same := asks.symm.trans asked
  obtain ⟨other, again, -⟩ := Option.map_eq_some_iff.mp same
  exact ⟨other, again⟩

theorem asksFor_of_ofText? (made : ofText? registry label value operator = some filter) :
    filter.label = normalizeLabel label ∧
      filter.AsksFor (registry.text? (normalizeLabel label)) := by
  rw [ofText?_eq] at made
  split at made
  next =>
    obtain rfl := Option.some.inj made
    exact ⟨rfl, Option.map_map ..⟩
  next => cases made

theorem asksFor_of_ofDates? (made : ofDates? registry label lower upper today = some filter) :
    filter.AsksFor (registry.date? (trimmed label)) := by
  rw [ofDates?_eq] at made
  obtain ⟨display, -, rfl⟩ := Option.map_eq_some_iff.mp made
  exact Option.map_map ..

end Filter

/-! ## Where filters and registry agree -/

namespace Registry

/-- Text filters with a label ask for the field that the registry finds for it, and show its label.
-/
def TextsAgree (registry : Registry) (label : String) : Prop :=
  ∀ value operator filter, Filter.ofText? registry label value operator = some filter →
    filter.AsksFor (registry.text? label) ∧
      ∀ field, registry.text? label = some field → filter.label = field.label

/-- Date filters with a label ask for the field that the registry finds for it. -/
def DatesAgree (registry : Registry) (label : String) : Prop :=
  ∀ lower upper today filter, Filter.ofDates? registry label lower upper today = some filter →
    filter.AsksFor (registry.date? label)

theorem textsAgree_of_normal {label : String}
    (normal : normalizeLabel (normalizeLabel label) = normalizeLabel label)
    (registry : Registry) : registry.TextsAgree label := by
  intro value operator filter made
  obtain ⟨shown, asks⟩ := Filter.asksFor_of_ofText? made
  rw [text?_normalizeLabel normal] at asks
  refine ⟨asks, ?_⟩
  intro field found
  rw [shown, label_of_text? found]

/-- On a label that keeps a marker, the registry of that normal form and the filter do not agree. -/
theorem forall_textsAgree_iff (label : String) :
    (∀ registry : Registry, registry.TextsAgree label) ↔
      ¬autocompleteMarker <:+ (normalizeLabel label).toList := by
  rw [← normalizeLabel_normalizeLabel_iff]
  refine ⟨?_, fun normal registry => textsAgree_of_normal normal registry⟩
  intro agree
  let field : Field := ⟨normalizeLabel label, "", .text⟩
  let registry : Registry := ⟨[field], []⟩
  have found : registry.text? label = some field :=
    List.find?_cons_of_pos (beq_self_eq_true _)
  have isMade : (Filter.ofText? registry label "x" .contains).isSome = true := by
    rw [Filter.isSome_ofText?]
    decide +kernel
  obtain ⟨filter, made⟩ := Option.isSome_iff_exists.mp isMade
  have asked := (agree registry "x" .contains filter made).1
  rw [found] at asked
  obtain ⟨other, again⟩ := asked.exists_eq_some (Filter.asksFor_of_ofText? made).2
  rw [← label_of_text? again, eq_of_find?_ofKind again]

theorem datesAgree_of_tidy {registry : Registry} (label : String)
    (same : registry.date? (trimmed label) = registry.date? label) :
    registry.DatesAgree label := by
  intro lower upper today filter made
  have asks := Filter.asksFor_of_ofDates? made
  rw [same] at asks
  exact asks

/-- On a label with blanks at its ends, the registry of this label and the filter do not agree. -/
theorem forall_datesAgree_iff (label : String) :
    (∀ registry : Registry, registry.DatesAgree label) ↔ trimmed label = label := by
  refine ⟨?_, fun tidy registry => datesAgree_of_tidy label (by rw [tidy])⟩
  intro agree
  let field : Field := ⟨label, "", .date⟩
  let registry : Registry := ⟨[field], []⟩
  have found : registry.date? label = some field :=
    List.find?_cons_of_pos ((contains_eq_true_iff _ _).mpr List.infix_rfl)
  have isMade : (Filter.ofDates? registry label (some "x") none ⟨1, 1, 1, by decide⟩).isSome =
      true := by
    rw [Filter.isSome_ofDates?]
    decide +kernel
  obtain ⟨filter, made⟩ := Option.isSome_iff_exists.mp isMade
  have asked := agree registry _ _ _ filter made
  rw [found] at asked
  obtain ⟨other, again⟩ := asked.exists_eq_some (Filter.asksFor_of_ofDates? made)
  have inside := List.find?_some again
  rw [eq_of_find?_ofKind again, contains_eq_true_iff] at inside
  -- The trimmed label is a part of the label, so with the whole label in it, it is the label.
  have part : (trimmed label).toList <:+: label.toList := by
    rw [trimmed, String.toList_ofList]
    exact (trimEnd_isPrefix _).isInfix.trans (List.dropWhile_suffix _).isInfix
  exact String.toList_inj.mp (part.eq_of_length_le inside.length_le)

end Registry

/-- A text filter asks for the field of the normal form of its label's normal form, a date filter
for that of its trimmed label.  Whatever the registry, this is the field found for the label itself,
and the label shown is the label of this field, exactly when the normal form carries no further
marker; for dates, exactly when the label has no blanks at its ends.  A registry whose date labels
have no such blanks agrees with the filters on every label. -/
theorem Filter.asks_for_registered_label (label : String) :
    (∀ (registry : Registry) value operator, isFilled value = true →
      ∃ filter, ofText? registry label value operator = some filter ∧
        filter.label = normalizeLabel label ∧
        filter.AsksFor (registry.text? (normalizeLabel label)) ∧
        ∀ field, registry.text? (normalizeLabel label) = some field →
          field.label = normalizeLabel filter.label) ∧
    ((∀ registry : Registry, registry.TextsAgree label) ↔
      ¬autocompleteMarker <:+ (normalizeLabel label).toList) ∧
    (∀ (registry : Registry) lower upper today,
      (lower.any isFilled || upper.any isFilled) = true →
      ∃ filter, ofDates? registry label lower upper today = some filter ∧
        filter.AsksFor (registry.date? (trimmed label))) ∧
    ((∀ registry : Registry, registry.DatesAgree label) ↔ trimmed label = label) ∧
    ∀ registry : Registry,
      (∀ field ∈ registry.ofKind .date, trimmed field.label = field.label) →
        registry.DatesAgree label := by
  refine ⟨?_, Registry.forall_textsAgree_iff label, ?_, Registry.forall_datesAgree_iff label, ?_⟩
  · intro registry value operator filled
    rw [← isSome_ofText? registry label value operator] at filled
    obtain ⟨filter, made⟩ := Option.isSome_iff_exists.mp filled
    obtain ⟨shown, asks⟩ := asksFor_of_ofText? made
    refine ⟨filter, made, shown, asks, ?_⟩
    intro field found
    rw [shown, Registry.label_of_text? found]
  · intro registry lower upper today filled
    rw [← isSome_ofDates? registry label lower upper today] at filled
    obtain ⟨filter, made⟩ := Option.isSome_iff_exists.mp filled
    exact ⟨filter, made, asksFor_of_ofDates? made⟩
  · intro registry tidy
    exact Registry.datesAgree_of_tidy label (Registry.date?_trimmed tidy label)

namespace Filter

/-- A registry with a text field and a date field of one label. -/
def protocolRegistry : Registry :=
  .of [⟨"Protocolo", "protocolo_s", .text⟩, ⟨"Protocolo", "dt_protocolo_tdt", .date⟩] []

theorem asks_for_registered_label_markedProtocol :
    let label := "  Protocolo (AUTO) "
    (isFilled " 10580 " = true ∧
      ∃ filter, ofText? protocolRegistry label " 10580 " .equals = some filter ∧
        filter.label = "Protocolo" ∧
        filter.AsksFor (some ⟨"Protocolo", "protocolo_s", .text⟩)) ∧
    (¬autocompleteMarker <:+ (normalizeLabel label).toList ∧
      protocolRegistry.TextsAgree label) ∧
    (((none : Option String).any isFilled || (some "2024-01-31").any isFilled) = true ∧
      ∃ filter, ofDates? protocolRegistry label none (some "2024-01-31")
        ⟨2024, 6, 1, by decide⟩ = some filter ∧
        filter.AsksFor (some ⟨"Protocolo", "dt_protocolo_tdt", .date⟩)) ∧
    (∀ field ∈ protocolRegistry.ofKind .date, trimmed field.label = field.label) ∧
      protocolRegistry.DatesAgree label := by
  intro label
  obtain ⟨texts, textsAgree, dates, -, datesAgree⟩ := asks_for_registered_label label
  have value : isFilled " 10580 " = true := by decide +kernel
  have bound :
      ((none : Option String).any isFilled || (some "2024-01-31").any isFilled) = true := by
    decide +kernel
  have plain : ¬autocompleteMarker <:+ (normalizeLabel label).toList := by decide +kernel
  have tidy : ∀ field ∈ protocolRegistry.ofKind .date, trimmed field.label = field.label := by
    decide +kernel
  refine ⟨⟨value, ?_⟩, ⟨plain, textsAgree.mpr plain protocolRegistry⟩, ⟨bound, ?_⟩, tidy,
    datesAgree protocolRegistry tidy⟩
  · obtain ⟨filter, made, shown, asks, -⟩ := texts protocolRegistry " 10580 " .equals value
    have found : protocolRegistry.text? (normalizeLabel label) =
        some ⟨"Protocolo", "protocolo_s", .text⟩ := by decide +kernel
    rw [found] at asks
    exact ⟨filter, made, shown.trans (by decide +kernel), asks⟩
  · obtain ⟨filter, made, asks⟩ := dates protocolRegistry none (some "2024-01-31") _ bound
    have found : protocolRegistry.date? (trimmed label) =
        some ⟨"Protocolo", "dt_protocolo_tdt", .date⟩ := by decide +kernel
    rw [found] at asks
    exact ⟨filter, made, asks⟩

/-- Of two markers the registry takes away one and finds nothing, while the filter asks for the
field without any.  A registered date label with a blank behind it is found by the registry alone.
-/
theorem not_agreeing_on_label :
    let label := "Nr Processo (AUTO) (AUTO)"
    (Registry.default.text? label = none ∧
      ofText? .default label "x" .contains =
        some ⟨"Nr Processo (AUTO)", "x", some .contains, .text,
          some (.text ⟨"processo_s", .contains, "x", "x"⟩)⟩ ∧
      ¬Registry.default.TextsAgree label) ∧
    let registry := Registry.of [⟨"Protocolo ", "dt_protocolo_tdt", .date⟩] []
    let title := "Data de Protocolo "
    registry.date? title = some ⟨"Protocolo ", "dt_protocolo_tdt", .date⟩ ∧
      ofDates? registry title (some "2024-01-01") none ⟨2024, 6, 1, by decide⟩ =
        some ⟨"Data de Protocolo", "A partir de 01/01/2024", none, .date, none⟩ ∧
      ¬registry.DatesAgree title := by
  intro label
  have unfound : Registry.default.text? label = none := by decide +kernel
  have made : ofText? .default label "x" .contains =
      some ⟨"Nr Processo (AUTO)", "x", some .contains, .text,
        some (.text ⟨"processo_s", .contains, "x", "x"⟩)⟩ := by decide +kernel
  refine ⟨⟨unfound, made, ?_⟩, ?_⟩
  · intro agree
    have asks := (agree _ _ _ made).1
    rw [unfound] at asks
    cases asks
  · intro registry title
    have found : registry.date? title = some ⟨"Protocolo ", "dt_protocolo_tdt", .date⟩ := by
      decide +kernel
    have shown : ofDates? registry title (some "2024-01-01") none ⟨2024, 6, 1, by decide⟩ =
        some ⟨"Data de Protocolo", "A partir de 01/01/2024", none, .date, none⟩ := by
      decide +kernel
    refine ⟨found, shown, ?_⟩
    intro agree
    have asks := agree _ _ _ _ shown
    rw [found] at asks
    cases asks

end Filter

end FacetedSearch
