import FacetedSearch.Json.Record
import FacetedSearch.Proofs.Json.Document
import FacetedSearch.Proofs.Table

/-!
# Values that are read back from their documents

A document is read as a value when it can be read from its text and stands for this value.  Texts
and words are read from their own documents, and so are lists, tables and optional values whose
parts are.  A record is read field by field: each field is looked up under its name.
-/

namespace FacetedSearch.Json

open Decimal

variable {Value : Type} {document : Document} {read : Document → Option Value} {value : Value}

/-- The document can be read from its text, and it stands for the value. -/
structure Document.IsReadAs (document : Document) (read : Document → Option Value) (value : Value) :
    Prop where
  wellFormed : document.WellFormed
  same : read document = some value

/-- The value is read back from the text of its document. -/
theorem Document.IsReadAs.readAs?_text (isRead : document.IsReadAs read value) :
    readAs? read document.text = some value := by
  rw [readAs?, isRead.wellFormed.read?_text, Option.bind_some, isRead.same]

/-! ## Single values -/

theorem takeFitting_of_le {high : Nat} {ds : List Digit}
    (fits : valueFrom high ds ≤ Saturating.top) :
    takeFitting high ds = (valueFrom high ds, []) := by
  induction ds generalizing high with
  | nil => rfl
  | cons d ds inductionHypothesis =>
      have smaller := le_valueFrom (high * 10 + d.val) ds
      rw [takeFitting, if_pos (Nat.le_trans smaller fits)]
      exact inductionHypothesis fits

@[simp]
theorem wellFormed_string (text : String) : (Document.string text).WellFormed :=
  .string text

@[simp]
theorem string?_string (text : String) : (Document.string text).string? = some text :=
  rfl

theorem isReadAs_string (text : String) : (Document.string text).IsReadAs Document.string? text :=
  ⟨.string text, rfl⟩

theorem isReadAs_ofWord (word : UInt64) :
    (Document.ofWord word).IsReadAs Document.word? word where
  wellFormed := .number (wellFormed_ofNat word.toNat)
  same := by
    have written : valueFrom 0 (digits word.toNat) = word.toNat := value_digits word.toNat
    have fits : valueFrom 0 (digits word.toNat) ≤ Saturating.top := by
      rw [written]
      exact Nat.le_of_lt_succ word.toNat_lt
    have number : (Numeral.ofNat word.toNat).number? = some (.natural word) := by
      simp only [Numeral.number?, Numeral.ofNat, takeFitting_of_le fits, written, ofInteger,
        Bool.false_eq_true, if_false, UInt64.ofNat_toNat]
    simp only [Document.ofWord, Document.word?, number]

/-! ## Lists and tables -/

theorem isReadAs_ofList {write : Value → Document}
    (isRead : ∀ value, (write value).IsReadAs read value) (values : List Value) :
    (Document.ofList write values).IsReadAs (Document.list? read) values where
  wellFormed := .array (List.forall_mem_map.mpr fun value _ => (isRead value).wellFormed)
  same := by
    rw [Document.ofList, Document.list?]
    induction values with
    | nil => rfl
    | cons value values inductionHypothesis =>
        rw [List.map_cons, List.mapM_cons, (isRead value).same, inductionHypothesis]
        rfl

theorem mapM_members_map {write : Value → Document}
    (isRead : ∀ value, (write value).IsReadAs read value) (entries : List (String × Value)) :
    (entries.map fun entry => (entry.1, write entry.2)).mapM
      (fun member => (read member.2).map fun value => (member.1, value)) = some entries := by
  induction entries with
  | nil => rfl
  | cons entry entries inductionHypothesis =>
      rw [List.map_cons, List.mapM_cons, (isRead entry.2).same, inductionHypothesis]
      rfl

theorem isReadAs_ofTable {write : Value → Document}
    (isRead : ∀ value, (write value).IsReadAs read value) (table : Table Value) :
    (Document.ofTable write table).IsReadAs (Document.table? read) table where
  wellFormed := .object (List.forall_mem_map.mpr fun entry _ => (isRead entry.2).wellFormed)
  same := by
    rw [Document.ofTable, Document.table?, Table.map, mapM_members_map isRead, Option.map_some,
      Table.ofList_entries]

/-! ## Records -/

/-- The members of an object are the fields of a record when they have its names. -/
theorem record?_object {names : List String} (distinct : names.Nodup) (least : Nat)
    {members : Fields} (named : members.map (·.1) = names) :
    (Document.object members).record? names least = some members := by
  have known : (members.filter fun member => names.contains member.1) = members := by
    apply List.filter_eq_self.mpr
    intro member listed
    rw [List.contains_iff_mem, ← named]
    exact List.mem_map_of_mem listed
  simp only [Document.record?, known, named, if_pos distinct]

@[simp]
theorem wellFormed_object_iff {members : List (String × Document)} :
    (Document.object members).WellFormed ↔ ∀ member ∈ members, member.2.WellFormed := by
  refine ⟨?_, .object⟩
  rintro (_ | _ | _ | _ | _ | each)
  exact each

variable {name first : String} {fields : Fields}

@[simp]
theorem required?_cons :
    Fields.required? ((first, document) :: fields) name read =
      if name = first then read document else fields.required? name read := by
  rw [Fields.required?, Table.lookup_cons_eq_ite]
  split <;> rfl

@[simp]
theorem default?_cons :
    Fields.default? ((first, document) :: fields) name value read =
      if name = first then read document else fields.default? name value read := by
  rw [Fields.default?, Table.lookup_cons_eq_ite]
  by_cases same : name = first
  · rw [if_pos same, if_pos same]
  · rw [if_neg same, if_neg same, Fields.default?]

@[simp]
theorem optional?_cons_of_ne (other : name ≠ first) :
    Fields.optional? ((first, document) :: fields) name read = fields.optional? name read := by
  rw [Fields.optional?, Table.lookup_cons_eq_ite, if_neg other, Fields.optional?]

/-- An optional field is read back, since no value is written as the document of none. -/
theorem optional?_cons_ofOption {write : Value → Document} {optional : Option Value}
    (nothing : read .null = none) (isRead : ∀ value, (write value).IsReadAs read value) :
    Fields.optional? ((name, .ofOption write optional) :: fields) name read = some optional := by
  rw [Fields.optional?, Table.lookup_cons_eq_ite, if_pos rfl]
  cases optional with
  | none => rfl
  | some value =>
      have same := (isRead value).same
      simp only [Document.ofOption]
      split
      next missing => cases missing
      next null =>
        rw [Option.some.inj null, nothing] at same
        cases same
      next document _ written =>
        rw [← Option.some.inj written, same]
        rfl

theorem wellFormed_ofOption {write : Value → Document}
    (isRead : ∀ value, (write value).IsReadAs read value) (optional : Option Value) :
    (Document.ofOption write optional).WellFormed := by
  cases optional with
  | none => exact .null
  | some value => exact (isRead value).wellFormed

end FacetedSearch.Json
