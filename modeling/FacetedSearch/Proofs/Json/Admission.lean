import FacetedSearch.Interchange
import FacetedSearch.Proofs.Json.ReadBack
import FacetedSearch.Proofs.Paging.Moves
import FacetedSearch.Proofs.Registry
import FacetedSearch.Proofs.Selection.Replacing

/-!
# Which values are read from texts

A selection is built when it is read, so every text gives a well-formed one.  Registries and
positions are taken as they stand in the text.  What their constructors see to, that no label is
repeated within a kind and that a page holds something, is not seen to there: each registry and each
position is read from some text, those without a number of pages included.
-/

namespace FacetedSearch

open Json

theorem Field.isReadAs (field : Field) : field.document.IsReadAs Field.ofDocument? field := by
  have kind := field.kind.isReadAs
  constructor
  · simp [document, kind.wellFormed]
  · simp [document, ofDocument?, record?_object, kind.same]

theorem Facet.isReadAs (facet : Facet) : facet.document.IsReadAs Facet.ofDocument? facet := by
  refine ⟨.array ?_, ?_⟩
  · simp
  · simp [document, ofDocument?, Document.pair?]

theorem Registry.isReadAs (registry : Registry) :
    registry.document.IsReadAs Registry.ofDocument? registry := by
  have fields := isReadAs_ofList Field.isReadAs registry.fields
  have facets := isReadAs_ofList Facet.isReadAs registry.facets
  constructor
  · simp [document, fields.wellFormed, facets.wellFormed]
  · simp [document, ofDocument?, record?_object, fields.same, facets.same]

theorem Paging.isReadAs (paging : Paging) :
    paging.document.IsReadAs Paging.ofDocument? paging := by
  have page := isReadAs_ofWord paging.page
  have size := isReadAs_ofWord paging.size
  have total := isReadAs_ofWord paging.total
  constructor
  · simp [document, page.wellFormed, size.wellFormed, total.wellFormed]
  · simp [document, ofDocument?, record?_object, page.same, size.same, total.same]

/-! ## What the constructors see to -/

/-- No label is repeated within a kind. -/
def Registry.WellFormed (registry : Registry) : Prop :=
  registry.fields.Pairwise fun field other => ¬field.clashes other = true

/-- The registries without repeats are those that are made from lists of fields. -/
theorem Registry.wellFormed_iff (registry : Registry) :
    registry.WellFormed ↔ ∃ fields facets, registry = Registry.of fields facets := by
  constructor
  · intro apart
    refine ⟨registry.fields, registry.facets, ?_⟩
    rw [Registry.of, distinctFields_of_pairwise apart]
  · rintro ⟨fields, facets, rfl⟩
    exact pairwise_distinctFields fields

/-- The positions with a page number and a page size are those reached from a first page. -/
theorem Paging.wellFormed_iff (paging : Paging) :
    paging.WellFormed ↔ ∃ size actions, paging = (start size).run actions := by
  constructor
  · rintro ⟨numbered, sized⟩
    refine ⟨paging.size, [.setTotal paging.total, .restore paging.page], ?_⟩
    change paging = ⟨max paging.page 1, max paging.size 1, paging.total⟩
    rw [max_of_le numbered, max_of_le sized]
  · rintro ⟨size, actions, rfl⟩
    exact wellFormed_run size actions

@[simp]
theorem Paging.isSome_pages?_iff (paging : Paging) :
    paging.pages?.isSome = true ↔ 1 ≤ paging.size := by
  unfold pages?
  split
  next unsized => simp [unsized]
  next sized =>
    refine iff_of_true rfl (UInt64.le_iff_toNat_le.mpr ?_)
    exact Nat.one_le_iff_ne_zero.mpr fun zero => sized (UInt64.toNat_inj.mp zero)

/-! ## What is read -/

theorem Selection.wellFormed_of_readAs? {text : String} {selection : Selection}
    (read : readAs? Selection.ofDocument? text = some selection) : selection.WellFormed := by
  obtain ⟨document, -, read⟩ := Option.bind_eq_some_iff.mp read
  exact wellFormed_of_ofDocument? read

/-- A registry that is read has no repeated labels exactly when it is one that a constructor gives,
and a position that is read is well-formed exactly when the operations reach it; a selection that is
read is well-formed.  There is no more to promise: every registry and every position is read from
its own text, whatever it is, and so is every well-formed selection. -/
theorem values_read_from_texts (text : String) :
    (∀ registry ∈ readAs? Registry.ofDocument? text,
      registry.WellFormed ↔ ∃ fields facets, registry = Registry.of fields facets) ∧
    (∀ paging ∈ readAs? Paging.ofDocument? text,
      (paging.WellFormed ↔ ∃ size actions, paging = (Paging.start size).run actions) ∧
        (paging.pages?.isSome = true ↔ 1 ≤ paging.size)) ∧
    (∀ selection ∈ readAs? Selection.ofDocument? text, selection.WellFormed) ∧
    (∀ registry : Registry, readAs? Registry.ofDocument? registry.document.text = some registry) ∧
    (∀ paging : Paging, readAs? Paging.ofDocument? paging.document.text = some paging) ∧
    ∀ selection : Selection, selection.WellFormed →
      readAs? Selection.ofDocument? selection.document.text = some selection := by
  refine ⟨fun registry _ => registry.wellFormed_iff, ?_, ?_, ?_, ?_, ?_⟩
  · exact fun paging _ => ⟨paging.wellFormed_iff, paging.isSome_pages?_iff⟩
  · exact fun selection read => Selection.wellFormed_of_readAs? read
  · exact fun registry => registry.isReadAs.readAs?_text
  · exact fun paging => paging.isReadAs.readAs?_text
  · exact fun selection wellFormed => wellFormed.isReadAs.readAs?_text

/-- A text with a repeated value, a repeated field and a field without values. -/
def untidyLists : String :=
  "\x7b\"a\":[\"y\"],\"b\":[],\"a\":[\"x\",\"y\",\"x\"]\x7d"

/-- The selection that is read from it. -/
def tidiedLists : Selection :=
  ⟨⟨[("a", ["x", "y"])], by decide⟩⟩

theorem values_read_from_texts_untidyLists :
    readAs? Selection.ofDocument? untidyLists = some tidiedLists ∧ tidiedLists.WellFormed ∧
      readAs? Selection.ofDocument? tidiedLists.document.text = some tidiedLists := by
  have read : readAs? Selection.ofDocument? untidyLists = some tidiedLists := by
    decide +kernel
  obtain ⟨-, -, selections, -, -, readBack⟩ := values_read_from_texts untidyLists
  have wellFormed := selections _ read
  exact ⟨read, wellFormed, readBack _ wellFormed⟩

/-- A label that is repeated within its kind stays in the registry, and a page without a number and
of no size stays in the position, which then has no number of pages. -/
theorem illFormed_values_read :
    readAs? Registry.ofDocument?
        "\x7b\"fields\":[[\"a\",\"b\",\"Date\"],[\"a\",\"c\",\"Date\"]],\"facet_fields\":[]\x7d" =
      some ⟨[⟨"a", "b", .date⟩, ⟨"a", "c", .date⟩], []⟩ ∧
    ¬Registry.WellFormed ⟨[⟨"a", "b", .date⟩, ⟨"a", "c", .date⟩], []⟩ ∧
    readAs? Paging.ofDocument?
        "\x7b\"current_page\":0,\"page_size\":0,\"total_results\":5\x7d" = some ⟨0, 0, 5⟩ ∧
    ¬Paging.WellFormed ⟨0, 0, 5⟩ ∧ Paging.pages? ⟨0, 0, 5⟩ = none := by
  refine ⟨by decide +kernel, ?_, by decide +kernel, ?_, rfl⟩
  · intro apart
    exact List.rel_of_pairwise_cons apart List.mem_cons_self rfl
  · exact fun wellFormed => absurd wellFormed.size (by decide)

end FacetedSearch
