import FacetedSearch.Proofs.Table
import FacetedSearch.Registry
import Mathlib.Data.List.Induction
import Mathlib.Data.List.Nodup

/-!
# Labels within a registry

Of clashing fields a registry keeps the first.  So a label names at most one field of each kind, and
a look-up of a whole label finds the field that has it.  The fields that are left out are not
missed: a look-up goes by kind and label alone, so it would never have got past the first.
-/

namespace FacetedSearch

@[simp]
theorem Field.clashes_eq_true_iff (field other : Field) :
    field.clashes other = true ↔ field.kind = other.kind ∧ field.label = other.label := by
  simp [Field.clashes]

theorem pairwise_distinctFields (fields : List Field) :
    (distinctFields fields).Pairwise fun field other => ¬field.clashes other = true := by
  induction fields with
  | nil => exact .nil
  | cons field rest inductionHypothesis =>
      refine .cons ?_ (inductionHypothesis.filter _)
      intro other kept
      have unclashing := (List.mem_filter.mp kept).2
      rwa [Bool.not_eq_true', ← Bool.not_eq_true] at unclashing

theorem distinctFields_of_pairwise {fields : List Field}
    (apart : fields.Pairwise fun field other => ¬field.clashes other = true) :
    distinctFields fields = fields := by
  induction apart with
  | nil => rfl
  | @cons field rest first later inductionHypothesis =>
      rw [distinctFields, inductionHypothesis, List.filter_eq_self.mpr]
      intro other listed
      rw [Bool.not_eq_true', ← Bool.not_eq_true]
      exact first other listed

/-- A search that treats clashing fields alike does not miss the fields that were left out. -/
theorem find?_distinctFields {wanted : Field → Bool}
    (alike : ∀ field other, field.clashes other = true → wanted other = wanted field)
    (fields : List Field) : (distinctFields fields).find? wanted = fields.find? wanted := by
  induction fields with
  | nil => rfl
  | cons field rest inductionHypothesis =>
      rw [distinctFields]
      by_cases found : wanted field = true
      · rw [List.find?_cons_of_pos found, List.find?_cons_of_pos found]
      · have unclashing : ∀ other, wanted other = true → (!field.clashes other) = true := by
          intro other matched
          rw [Bool.not_eq_true', ← Bool.not_eq_true]
          intro clashing
          rw [alike field other clashing] at matched
          exact found matched
        rw [List.find?_cons_of_neg found, List.find?_cons_of_neg found, List.find?_filter,
          ← inductionHypothesis]
        congr 1
        funext other
        rw [Bool.eq_iff_iff, decide_eq_true_iff]
        exact and_iff_right_of_imp (unclashing other)

@[simp]
theorem any_clashes_distinctFields (fields : List Field) (field : Field) :
    ((distinctFields fields).any fun kept => kept.clashes field) =
      fields.any fun other => other.clashes field := by
  rw [← List.isSome_find?, ← List.isSome_find?, find?_distinctFields]
  intro first second clashing
  obtain ⟨kind, label⟩ := (first.clashes_eq_true_iff second).mp clashing
  rw [Field.clashes, Field.clashes, kind, label]

/-- A field that comes last is kept, unless it clashes with one that is kept. -/
theorem distinctFields_append_singleton (fields : List Field) (field : Field) :
    distinctFields (fields ++ [field]) =
      if (distinctFields fields).any fun kept => kept.clashes field then distinctFields fields
      else distinctFields fields ++ [field] := by
  rw [any_clashes_distinctFields]
  induction fields with
  | nil => rfl
  | cons first rest inductionHypothesis =>
      rw [List.cons_append, distinctFields, inductionHypothesis, distinctFields, List.any_cons]
      cases clashing : first.clashes field <;>
        cases rest.any fun other => other.clashes field <;> simp [clashing]

/-- The fields with no field of their kind and label before them. -/
def firstFields (fields : List Field) : List Field :=
  (fields.zipIdx.filter fun entry =>
    (fields.take entry.2).all fun earlier => !earlier.clashes entry.1).map (·.1)

theorem firstFields_append_singleton (fields : List Field) (field : Field) :
    firstFields (fields ++ [field]) =
      if fields.any fun other => other.clashes field then firstFields fields
      else firstFields fields ++ [field] := by
  have unchanged : ((fields.zipIdx.filter fun entry =>
      ((fields ++ [field]).take entry.2).all fun earlier => !earlier.clashes entry.1).map (·.1)) =
        firstFields fields := by
    refine congrArg (List.map Prod.fst) (List.filter_congr ?_)
    intro entry listed
    have within : entry.2 ≤ fields.length := Nat.le_of_lt (List.snd_lt_of_mem_zipIdx listed)
    rw [List.take_append_of_le_length within]
  rw [firstFields, List.zipIdx_append, List.filter_append, List.map_append, unchanged,
    Nat.zero_add, List.zipIdx_singleton, List.filter_singleton, List.take_left,
    ← List.not_any_eq_all_not]
  cases fields.any fun other => other.clashes field
  · rfl
  · exact List.append_nil _

theorem distinctFields_eq_firstFields (fields : List Field) :
    distinctFields fields = firstFields fields := by
  induction fields using List.reverseRecOn with
  | nil => rfl
  | append_singleton fields field inductionHypothesis =>
      rw [distinctFields_append_singleton, firstFields_append_singleton,
        any_clashes_distinctFields, inductionHypothesis]

/-- An entry is found under its key, if no other entry has this key. -/
theorem find?_key {Entry : Type} (key : Entry → String) {entries : List Entry} {entry : Entry}
    (distinct : (entries.map key).Nodup) (membership : entry ∈ entries) :
    (entries.find? fun other => key other == key entry) = some entry := by
  cases found : entries.find? fun other => key other == key entry with
  | none =>
      exact absurd (beq_self_eq_true (key entry)) (List.find?_eq_none.mp found entry membership)
  | some other =>
      have matched := List.find?_some found
      rw [List.inj_on_of_nodup_map distinct (List.mem_of_find?_eq_some found) membership
        (eq_of_beq matched)]

namespace Registry

variable {fields : List Field} {facets : List Facet} {kind : FieldKind} {field : Field}

/-- The labels of one kind come in the order in which the fields given first have them. -/
theorem labels_ofKind_of (fields : List Field) (facets : List Facet) (kind : FieldKind) :
    ((of fields facets).ofKind kind).map (·.label) =
      ((ofKind ⟨fields, facets⟩ kind).map (·.label)).eraseDups := by
  unfold ofKind of
  induction fields using List.reverseRecOn with
  | nil => rfl
  | append_singleton fields field inductionHypothesis =>
      dsimp only at inductionHypothesis ⊢
      rw [distinctFields_append_singleton, any_clashes_distinctFields, List.filter_append,
        List.map_append]
      by_cases same : field.kind = kind
      · have again : (fields.any fun other => other.clashes field) = true ↔
            field.label ∈ (fields.filter fun other => other.kind == kind).map (·.label) := by
          simp [Field.clashes, same, and_assoc]
        rw [List.filter_singleton, beq_iff_eq.mpr same, cond_true, List.map_singleton,
          eraseDups_append_singleton, ← inductionHypothesis]
        simp only [again]
        split
        next => rfl
        next => simp [same]
      · rw [List.filter_singleton, beq_eq_false_iff_ne.mpr same, cond_false, List.map_nil,
          List.append_nil, ← inductionHypothesis]
        split
        next => rfl
        next => simp [same]

@[simp]
theorem nodup_labels_ofKind (fields : List Field) (facets : List Facet) (kind : FieldKind) :
    (((of fields facets).ofKind kind).map (·.label)).Nodup := by
  rw [labels_ofKind_of]
  exact nodup_eraseDups _

/-- A text field is found under its label, if the label is in normal form. -/
theorem text?_of_mem (membership : field ∈ (of fields facets).ofKind .text)
    (normal : normalizeLabel field.label = field.label) :
    (of fields facets).text? field.label = some field := by
  unfold text?
  rw [normal]
  exact find?_key _ (nodup_labels_ofKind fields facets .text) membership

theorem facetLabel?_of_mem {registry : Registry} {facet : Facet}
    (distinct : (registry.facets.map (·.field)).Nodup) (membership : facet ∈ registry.facets) :
    registry.facetLabel? facet.field = some facet.label := by
  unfold facetLabel?
  rw [find?_key (·.field) distinct membership, Option.map_some]

/-! ## Repeated labels -/

/-- A search by label among the fields of one kind finds the same field in the list as given. -/
theorem find?_ofKind_of (fields : List Field) (facets : List Facet) (kind : FieldKind)
    (wanted : String → Bool) :
    ((of fields facets).ofKind kind).find? (fun field => wanted field.label) =
      (ofKind ⟨fields, facets⟩ kind).find? fun field => wanted field.label := by
  unfold ofKind
  rw [List.find?_filter, List.find?_filter, of, find?_distinctFields]
  intro field other clashing
  obtain ⟨sameKind, sameLabel⟩ := (field.clashes_eq_true_iff other).mp clashing
  rw [sameKind, sameLabel]

/-- Of repeated labels a registry keeps the first, and the others are not missed: look-ups find the
same field in the registry as in the list that it was made from. -/
theorem of_keeps_first_fields (fields : List Field) (facets : List Facet) :
    let registry := of fields facets
    let listed : Registry := ⟨fields, facets⟩
    registry.fields = firstFields fields ∧
    (∀ kind, ((registry.ofKind kind).map (·.label)).Nodup) ∧
    of registry.fields registry.facets = registry ∧
    registry.value? = listed.value? ∧
    ∀ label, registry.text? label = listed.text? label ∧
      registry.numeric? label = listed.numeric? label ∧
      registry.date? label = listed.date? label ∧
      registry.field? label = listed.field? label := by
  intro registry listed
  have text : ∀ label, registry.text? label = listed.text? label := fun label =>
    find?_ofKind_of fields facets .text (· == normalizeLabel label)
  have numeric : ∀ label, registry.numeric? label = listed.numeric? label := fun label =>
    find?_ofKind_of fields facets .numeric (· == normalizeLabel label)
  have date : ∀ label, registry.date? label = listed.date? label := fun label =>
    find?_ofKind_of fields facets .date fun known => Text.contains label.toList known.toList
  have value : registry.value? = listed.value? := by
    have head : ∀ entries : List Field, entries.find? (fun _ => true) = entries.head? := by
      intro entries
      cases entries <;> rfl
    have first := find?_ofKind_of fields facets .numeric fun _ => true
    rwa [head, head] at first
  refine ⟨distinctFields_eq_firstFields fields, nodup_labels_ofKind fields facets,
    congrArg (Registry.mk · facets) (distinctFields_of_pairwise (pairwise_distinctFields fields)),
    value, ?_⟩
  intro label
  refine ⟨text label, numeric label, date label, ?_⟩
  rw [field?, field?, text, numeric, date]

/-- Fields of which the third clashes with the first, and the last with the fourth. -/
def clashingFields : List Field :=
  [⟨"Nome", "nome_s", .text⟩, ⟨"Nome", "nome_d", .numeric⟩, ⟨"Nome", "outro_s", .text⟩,
    ⟨"Data", "dt_tdt", .date⟩, ⟨"Data", "dt_outra_tdt", .date⟩]

theorem of_keeps_first_fields_clashingFields :
    let registry := of clashingFields []
    registry.fields =
      [⟨"Nome", "nome_s", .text⟩, ⟨"Nome", "nome_d", .numeric⟩, ⟨"Data", "dt_tdt", .date⟩] ∧
    registry.text? " Nome (AUTO)" = some ⟨"Nome", "nome_s", .text⟩ ∧
    registry.numeric? "Nome" = some ⟨"Nome", "nome_d", .numeric⟩ ∧
    registry.date? "Data de Juntada" = some ⟨"Data", "dt_tdt", .date⟩ ∧
    registry.field? "Data de Juntada" = some ⟨"Data", "dt_tdt", .date⟩ ∧
    registry.value? = some ⟨"Nome", "nome_d", .numeric⟩ := by
  obtain ⟨kept, -, -, value, found⟩ := of_keeps_first_fields clashingFields []
  exact ⟨kept.trans (by decide +kernel), (found " Nome (AUTO)").1.trans (by decide +kernel),
    (found "Nome").2.1.trans (by decide +kernel),
    (found "Data de Juntada").2.2.1.trans (by decide +kernel),
    (found "Data de Juntada").2.2.2.trans (by decide +kernel), value.trans (by decide +kernel)⟩

end Registry

end FacetedSearch
