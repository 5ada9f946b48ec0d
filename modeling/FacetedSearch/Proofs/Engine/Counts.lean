import FacetedSearch.Engine.Answer
import FacetedSearch.Proofs.Registry
import FacetedSearch.Proofs.Table
import FacetedSearch.Registry.Default

/-!
# Counts from the wire to the groups

A flat list is read in pairs by position, so a pair that does not count leaves the other pairs where
they are.  The groups are those of the registered facets for which at least one pair counts.
-/

namespace FacetedSearch

/-- A value and its count make an item: the value is a text or a number, and the count is a natural
number above zero. -/
def JsonValue.CountsAs (value count : JsonValue) (item : FacetCount) : Prop :=
  ∃ text number,
    (value = .string text ∨ ∃ written, value = .number written ∧ text = value.text) ∧
    count = .number (.natural number) ∧ 0 < number ∧ item = ⟨text, text, number⟩

namespace FacetCount

variable {value count : JsonValue} {item : FacetCount} {flat first second : List JsonValue}

theorem facetText?_eq_some_iff {text : String} :
    value.facetText? = some text ↔
      value = .string text ∨ ∃ written, value = .number written ∧ text = value.text := by
  cases value <;> simp [JsonValue.facetText?, eq_comm]

@[simp]
theorem natural?_eq_some_iff {number : UInt64} :
    count.natural? = some number ↔ count = .number (.natural number) := by
  unfold JsonValue.natural?
  split <;> simp_all

@[simp]
theorem ofPair?_eq_some_iff : ofPair? value count = some item ↔ value.CountsAs count item := by
  have positive : ∀ number : UInt64, ¬number = 0 ↔ 0 < number := fun number => by
    rw [UInt64.lt_iff_toNat_lt, ← UInt64.toNat_inj, UInt64.toNat_zero, Nat.pos_iff_ne_zero]
  simp only [ofPair?, JsonValue.CountsAs, Option.bind_eq_bind, Option.bind_eq_some_iff,
    facetText?_eq_some_iff, natural?_eq_some_iff, Option.ite_none_left_eq_some, positive, ofValue,
    Option.some.injEq]
  constructor
  · rintro ⟨text, texts, number, numbers, above, rfl⟩
    exact ⟨text, number, texts, numbers, above, rfl⟩
  · rintro ⟨text, number, texts, numbers, above, rfl⟩
    exact ⟨text, texts, number, numbers, above, rfl⟩

/-! ## Pairs by position -/

/-- The item at a place of a flat list, counted in pairs. -/
def at? (flat : List JsonValue) (place : Nat) : Option FacetCount :=
  flat[2 * place]?.bind fun value => flat[2 * place + 1]?.bind fun count => ofPair? value count

/-- The items of a flat list by their places, none of which lies outside of it. -/
def pairs (flat : List JsonValue) : List FacetCount :=
  (List.range (flat.length / 2)).filterMap (at? flat)

theorem at?_eq_some_iff {place : Nat} :
    at? flat place = some item ↔
      ∃ value count, flat[2 * place]? = some value ∧ flat[2 * place + 1]? = some count ∧
        value.CountsAs count item := by
  simp only [at?, Option.bind_eq_some_iff, ofPair?_eq_some_iff]
  constructor
  · rintro ⟨value, atValue, count, atCount, counts⟩
    exact ⟨value, count, atValue, atCount, counts⟩
  · rintro ⟨value, count, atValue, atCount, counts⟩
    exact ⟨value, atValue, count, atCount, counts⟩

@[simp]
theorem at?_cons_cons_succ (value count : JsonValue) (flat : List JsonValue) (place : Nat) :
    at? (value :: count :: flat) (place + 1) = at? flat place := by
  unfold at?
  rw [show 2 * (place + 1) = 2 * place + 1 + 1 by omega]
  simp

@[simp]
theorem pairs_cons_cons (value count : JsonValue) (flat : List JsonValue) :
    pairs (value :: count :: flat) = (ofPair? value count).toList ++ pairs flat := by
  have places : (value :: count :: flat).length / 2 = flat.length / 2 + 1 := by
    simp only [List.length_cons]
    omega
  -- Without the first pair, every later pair stands one place earlier.
  have later : at? (value :: count :: flat) ∘ Nat.succ = at? flat :=
    funext (at?_cons_cons_succ value count flat)
  unfold pairs
  rw [places, List.range_succ_eq_map, List.filterMap_cons, List.filterMap_map, later]
  have here : at? (value :: count :: flat) 0 = ofPair? value count := rfl
  rw [here]
  cases ofPair? value count <;> rfl

@[simp]
theorem pairs_singleton (value : JsonValue) : pairs [value] = [] := by
  simp [pairs]

theorem ofFlat_eq_pairs (flat : List JsonValue) : ofFlat flat = pairs flat := by
  fun_induction ofFlat flat with
  | case1 value count rest inductionHypothesis =>
      rw [inductionHypothesis, pairs_cons_cons]
  | case2 flat short =>
      cases flat with
      | nil => rfl
      | cons value rest =>
          cases rest with
          | nil => exact (pairs_singleton value).symm
          | cons count rest => exact absurd rfl (short value count rest)

/-- Reading goes on behind any number of whole pairs as it does at the start. -/
theorem pairs_append (whole : first.length % 2 = 0) :
    pairs (first ++ second) = pairs first ++ pairs second := by
  rw [← ofFlat_eq_pairs first]
  fun_induction ofFlat first with
  | case1 value count rest inductionHypothesis =>
      simp only [List.length_cons] at whole
      rw [List.cons_append, List.cons_append, pairs_cons_cons, inductionHypothesis (by omega),
        List.append_assoc]
  | case2 first short =>
      cases first with
      | nil => rfl
      | cons value rest =>
          cases rest with
          | nil => simp at whole
          | cons count rest => exact absurd rfl (short value count rest)

/-- A pair that does not count is dropped on its own. -/
theorem pairs_drop_pair (whole : first.length % 2 = 0)
    (malformed : ∀ item, ¬value.CountsAs count item) :
    pairs (first ++ value :: count :: second) = pairs (first ++ second) := by
  have dropped : ofPair? value count = none := by
    rw [Option.eq_none_iff_forall_ne_some]
    intro item made
    exact malformed item (ofPair?_eq_some_iff.mp made)
  rw [pairs_append whole, pairs_append whole, pairs_cons_cons, dropped]
  rfl

/-- A value at the end without a count is dropped on its own. -/
theorem pairs_drop_last (whole : first.length % 2 = 0) :
    pairs (first ++ [value]) = pairs first := by
  rw [pairs_append whole, pairs_singleton, List.append_nil]

end FacetCount

/-! ## Groups -/

/-- The items of a field, of which there are none where the field is not counted. -/
def ReplyCounts.items (counts : ReplyCounts) (field : String) : List FacetCount :=
  ((counts.fields.get? field).map FacetCount.pairs).getD []

namespace FacetGroup

variable {counts : ReplyCounts} {registry : Registry} {facet : Facet}

theorem pos_of_mem_pairs {flat : List JsonValue} {item : FacetCount}
    (membership : item ∈ FacetCount.pairs flat) : 0 < item.count := by
  obtain ⟨place, -, found⟩ := List.mem_filterMap.mp membership
  obtain ⟨value, count, -, -, text, number, -, -, positive, rfl⟩ :=
    FacetCount.at?_eq_some_iff.mp found
  exact positive

theorem ofField?_ofReply (labelled : registry.facetLabel? facet.field = some facet.label) :
    ofField? registry (.ofReply (some counts)) facet.field =
      if (counts.items facet.field).isEmpty then none
      else some ⟨facet.field, facet.label, counts.items facet.field⟩ := by
  unfold ofField? FacetCounts.ofReply ReplyCounts.items
  rw [labelled, Table.get?_map, funext FacetCount.ofFlat_eq_pairs]
  cases counts.fields.get? facet.field with
  | none => rfl
  | some flat =>
      have all : (FacetCount.pairs flat).filter (fun item => decide (0 < item.count)) =
          FacetCount.pairs flat := by
        apply List.filter_eq_self.mpr
        intro item membership
        exact decide_eq_true (pos_of_mem_pairs membership)
      simp only [Option.bind_eq_bind, Option.bind_some, Option.map_some, Option.getD_some, all]

/-- The groups are the facets with items, each with its label and all of its items. -/
theorem ofCounts_ofReply (distinct : (registry.facets.map (·.field)).Nodup) :
    ofCounts registry (.ofReply (some counts)) =
      (registry.facets.filter fun facet => !(counts.items facet.field).isEmpty).map fun facet =>
        ⟨facet.field, facet.label, counts.items facet.field⟩ := by
  unfold ofCounts
  rw [List.filterMap_map, ← List.filterMap_eq_map, List.filterMap_filter]
  apply List.filterMap_congr
  intro facet membership
  rw [Function.comp, ofField?_ofReply (registry.facetLabel?_of_mem distinct membership)]
  cases (counts.items facet.field).isEmpty <;> rfl

end FacetGroup

namespace FacetCounts

/-- The fields of a reply keep their places, each with the pairs of its list that count, in order.
A pair that does not count, or a value left over at the end, goes without moving any other.  Where
the registered facets are distinct, the groups are those of the facets with at least one such pair,
once each and in the order of the registry, with its label and all of their items. -/
theorem ofReply_keeps_counting_pairs (counts : ReplyCounts) :
    ((ofReply (some counts)).keys = counts.fields.keys ∧
      ∀ field, (ofReply (some counts)).get? field =
        (counts.fields.get? field).map FacetCount.pairs) ∧
    (∀ flat place item, FacetCount.at? flat place = some item ↔
      ∃ value count, flat[2 * place]? = some value ∧ flat[2 * place + 1]? = some count ∧
        value.CountsAs count item) ∧
    (∀ first : List JsonValue, first.length % 2 = 0 →
      (∀ value count second, (∀ item, ¬value.CountsAs count item) →
        FacetCount.pairs (first ++ value :: count :: second) =
          FacetCount.pairs (first ++ second)) ∧
      ∀ value, FacetCount.pairs (first ++ [value]) = FacetCount.pairs first) ∧
    ∀ registry : Registry, (registry.facets.map (·.field)).Nodup →
      FacetGroup.ofCounts registry (ofReply (some counts)) =
        (registry.facets.filter fun facet => !(counts.items facet.field).isEmpty).map
          (fun facet => ⟨facet.field, facet.label, counts.items facet.field⟩) ∧
      ((FacetGroup.ofCounts registry (ofReply (some counts))).map (·.field)).Nodup := by
  refine ⟨⟨Table.keys_map _ _, ?_⟩, fun _ _ _ => FacetCount.at?_eq_some_iff, ?_, ?_⟩
  · intro field
    rw [ofReply, Table.get?_map, funext FacetCount.ofFlat_eq_pairs]
  · intro first whole
    exact ⟨fun _ _ _ => FacetCount.pairs_drop_pair whole, fun _ => FacetCount.pairs_drop_last whole⟩
  · intro registry distinct
    refine ⟨FacetGroup.ofCounts_ofReply distinct, ?_⟩
    rw [FacetGroup.ofCounts_ofReply distinct, List.map_map]
    exact distinct.sublist (List.filter_sublist.map _)

/-- Counts with malformed pairs, an empty list and a field that is no facet. -/
def unevenCounts : ReplyCounts :=
  ⟨⟨[("situacao_s", [.string "Julgado", .number (.natural 5), .bool true, .number (.natural 7),
      .string "Aberto", .number (.natural 0), .number (.natural 2023), .number (.natural 2),
      .string "Arquivado"]),
    ("campo_s", [.string "x", .number (.natural 3)]), ("tributo_act_s", []),
    ("tipo_documento_s", [.string "Despacho", .number (.natural 12)])], by decide⟩⟩

theorem ofReply_keeps_counting_pairs_unevenCounts :
    (Registry.default.facets.map (·.field)).Nodup ∧
    FacetGroup.ofCounts .default (ofReply (some unevenCounts)) =
      [⟨"tipo_documento_s", "Tipo de Documento", [.ofValue "Despacho" 12]⟩,
        ⟨"situacao_s", "Situação", [.ofValue "Julgado" 5, .ofValue "2023" 2]⟩] ∧
    (∀ item, ¬(JsonValue.bool true).CountsAs (.number (.natural 7)) item) ∧
    FacetCount.pairs [.string "Julgado", .number (.natural 5), .bool true, .number (.natural 7),
        .number (.natural 2023), .number (.natural 2)] =
      [.ofValue "Julgado" 5, .ofValue "2023" 2] := by
  have distinct : (Registry.default.facets.map (·.field)).Nodup := by decide
  have malformed : ∀ item, ¬(JsonValue.bool true).CountsAs (.number (.natural 7)) item := by
    intro item counts
    simp [JsonValue.CountsAs] at counts
  obtain ⟨-, -, dropping, groups⟩ := ofReply_keeps_counting_pairs unevenCounts
  refine ⟨distinct, ?_, malformed, ?_⟩
  · rw [(groups .default distinct).1]
    decide +kernel
  · have dropped := (dropping [.string "Julgado", .number (.natural 5)] rfl).1 _ _
      [.number (.natural 2023), .number (.natural 2)] malformed
    rw [List.cons_append, List.cons_append, List.nil_append] at dropped
    rw [dropped]
    decide +kernel

end FacetCounts

end FacetedSearch
