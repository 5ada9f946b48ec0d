import FacetedSearch.Table
import Mathlib.Data.List.Induction
import Mathlib.Data.List.Nodup

/-!
The entries of a table after storing and erasing, and what is found in it.

Storing under a key that is present keeps all keys where they are, and storing under a new one puts
it at the end.  As no key is there twice, a table is settled by its keys and what it holds for each.
-/

namespace FacetedSearch

/-! ## Texts that are not repeated -/

@[simp]
theorem eraseDups_append_singleton (values : List String) (value : String) :
    (values ++ [value]).eraseDups =
      if value ∈ values then values.eraseDups else values.eraseDups ++ [value] := by
  rw [List.eraseDups_append]
  split
  next again => simp [List.removeAll, again]
  next fresh => simp [List.removeAll, fresh, List.eraseDups_cons]

@[simp]
theorem nodup_append_singleton {values : List String} {value : String} :
    (values ++ [value]).Nodup ↔ value ∉ values ∧ values.Nodup := by
  rw [← List.concat_eq_append, List.nodup_concat]

@[simp]
theorem nodup_eraseDups (values : List String) : values.eraseDups.Nodup := by
  induction values using List.reverseRecOn with
  | nil => exact List.nodup_nil
  | append_singleton values value inductionHypothesis =>
      rw [eraseDups_append_singleton]
      split
      next => exact inductionHypothesis
      next fresh =>
        exact nodup_append_singleton.mpr ⟨mt List.mem_eraseDups.mp fresh, inductionHypothesis⟩

theorem eraseDups_of_nodup {values : List String} (distinct : values.Nodup) :
    values.eraseDups = values := by
  induction values using List.reverseRecOn with
  | nil => rfl
  | append_singleton values value inductionHypothesis =>
      obtain ⟨fresh, others⟩ := nodup_append_singleton.mp distinct
      rw [eraseDups_append_singleton, if_neg fresh, inductionHypothesis others]

namespace Table

variable {Value : Type}

/-! ## Lists of entries -/

section Entries

variable {key : String} {value : Value} {entries : List (String × Value)}

theorem map_fst_setEntry (key : String) (value : Value) (entries : List (String × Value)) :
    (setEntry key value entries).map (·.1) =
      if key ∈ entries.map (·.1) then entries.map (·.1) else entries.map (·.1) ++ [key] := by
  induction entries with
  | nil => rfl
  | cons entry rest inductionHypothesis =>
      by_cases same : entry.1 = key
      · simp [setEntry, same]
      · have other : key ≠ entry.1 := Ne.symm same
        simp only [setEntry, if_neg same, List.map_cons, List.mem_cons, other, false_or,
          inductionHypothesis]
        split <;> rfl

/-- A new key is put at the end. -/
theorem setEntry_of_notMem (fresh : key ∉ entries.map (·.1)) (value : Value) :
    setEntry key value entries = entries ++ [(key, value)] := by
  induction entries with
  | nil => rfl
  | cons entry rest inductionHypothesis =>
      have other : key ≠ entry.1 := List.ne_of_not_mem_cons fresh
      have later : key ∉ rest.map (·.1) := List.not_mem_of_not_mem_cons fresh
      rw [setEntry, if_neg (Ne.symm other), inductionHypothesis later]
      rfl

theorem lookup_cons_eq_ite (name key : String) (stored : Value) (rest : List (String × Value)) :
    ((name, stored) :: rest).lookup key = if key = name then some stored else rest.lookup key := by
  rw [List.lookup_cons]
  by_cases same : key = name
  · simp [same]
  · rw [beq_false_of_ne same, if_neg same]

theorem lookup_setEntry (key other : String) (value : Value) (entries : List (String × Value)) :
    (setEntry key value entries).lookup other =
      if other = key then some value else entries.lookup other := by
  induction entries with
  | nil => exact lookup_cons_eq_ite key other value []
  | cons entry rest inductionHypothesis =>
      obtain ⟨name, stored⟩ := entry
      by_cases replaced : name = key
      · subst replaced
        simp only [setEntry, if_true, lookup_cons_eq_ite]
        split <;> rfl
      · simp only [setEntry, if_neg replaced, lookup_cons_eq_ite, inductionHypothesis]
        by_cases there : other = name
        · simp [there, replaced]
        · simp [there]

@[simp]
theorem lookup_filter_ne (key other : String) (entries : List (String × Value)) :
    (entries.filter fun entry => entry.1 ≠ key).lookup other =
      if other = key then none else entries.lookup other := by
  induction entries with
  | nil => simp
  | cons entry rest inductionHypothesis =>
      obtain ⟨name, stored⟩ := entry
      by_cases erased : name = key
      · rw [List.filter_cons_of_neg (by simp [erased]), inductionHypothesis, lookup_cons_eq_ite,
          erased]
        split <;> rfl
      · rw [List.filter_cons_of_pos (by simp [erased]), lookup_cons_eq_ite, lookup_cons_eq_ite,
          inductionHypothesis]
        by_cases there : other = name
        · simp [there, erased]
        · simp [there]

theorem lookup_map_snd {Result : Type} (f : Value → Result) (key : String)
    (entries : List (String × Value)) :
    (entries.map fun entry => (entry.1, f entry.2)).lookup key = (entries.lookup key).map f := by
  induction entries with
  | nil => rfl
  | cons entry rest inductionHypothesis =>
      obtain ⟨name, stored⟩ := entry
      rw [List.map_cons, lookup_cons_eq_ite, lookup_cons_eq_ite, inductionHypothesis]
      split <;> rfl

@[simp]
theorem lookup_eq_none_iff_notMem : entries.lookup key = none ↔ key ∉ entries.map (·.1) := by
  rw [← List.forall_mem_ne, List.forall_mem_map, List.lookup_eq_none_iff]
  simp only [bne_iff_ne]

theorem eq_of_lookup {others : List (String × Value)} (distinct : (entries.map (·.1)).Nodup)
    (sameKeys : entries.map (·.1) = others.map (·.1))
    (sameValues : ∀ key, entries.lookup key = others.lookup key) : entries = others := by
  induction entries generalizing others with
  | nil => exact (List.map_eq_nil_iff.mp sameKeys.symm).symm
  | cons entry rest inductionHypothesis =>
      cases others with
      | nil => cases sameKeys
      | cons otherEntry otherRest =>
          obtain ⟨name, stored⟩ := entry
          obtain ⟨otherName, otherStored⟩ := otherEntry
          obtain ⟨sameName, sameRest⟩ := List.cons_eq_cons.mp sameKeys
          obtain rfl : name = otherName := sameName
          obtain ⟨fresh, restDistinct⟩ := List.nodup_cons.mp distinct
          have sameStored := sameValues name
          simp only [lookup_cons_eq_ite, if_true, Option.some.injEq] at sameStored
          have restValues : ∀ key, rest.lookup key = otherRest.lookup key := by
            intro key
            by_cases same : key = name
            · have absent : name ∉ otherRest.map (·.1) := fun there => fresh (sameRest.symm ▸ there)
              rw [same, lookup_eq_none_iff_notMem.mpr fresh, lookup_eq_none_iff_notMem.mpr absent]
            · simpa only [lookup_cons_eq_ite, if_neg same] using sameValues key
          rw [sameStored, inductionHypothesis restDistinct sameRest restValues]

end Entries

/-! ## Tables -/

variable {table : Table Value} {key : String} {value : Value}

@[simp]
theorem keys_set (table : Table Value) (key : String) (value : Value) :
    (table.set key value).keys =
      if key ∈ table.keys then table.keys else table.keys ++ [key] :=
  map_fst_setEntry key value table.entries

@[simp]
theorem keys_erase (table : Table Value) (key : String) :
    (table.erase key).keys = table.keys.filter fun other => other ≠ key := by
  unfold erase keys
  rw [List.filter_map]
  rfl

@[simp]
theorem keys_map {Result : Type} (f : Value → Result) (table : Table Value) :
    (table.map f).keys = table.keys :=
  map_fst_map f table.entries

theorem mem_entries_set {entry : String × Value}
    (listed : entry ∈ (table.set key value).entries) :
    entry = (key, value) ∨ entry ∈ table.entries :=
  mem_setEntry listed

@[simp]
theorem get?_set (table : Table Value) (key other : String) (value : Value) :
    (table.set key value).get? other = if other = key then some value else table.get? other :=
  lookup_setEntry key other value table.entries

@[simp]
theorem get?_erase (table : Table Value) (key other : String) :
    (table.erase key).get? other = if other = key then none else table.get? other :=
  lookup_filter_ne key other table.entries

@[simp]
theorem get?_map {Result : Type} (f : Value → Result) (table : Table Value)
    (key : String) : (table.map f).get? key = (table.get? key).map f :=
  lookup_map_snd f key table.entries

theorem mem_of_get?_eq_some (found : table.get? key = some value) :
    (key, value) ∈ table.entries := by
  obtain ⟨before, after, split, -⟩ := List.lookup_eq_some_iff.mp found
  rw [split]
  exact List.mem_append_right before List.mem_cons_self

@[simp]
theorem get?_eq_none_iff : table.get? key = none ↔ key ∉ table.keys :=
  lookup_eq_none_iff_notMem

/-- Tables with the same keys and the same value for each are the same. -/
theorem ext_get? {other : Table Value} (sameKeys : table.keys = other.keys)
    (sameValues : ∀ key, table.get? key = other.get? key) : table = other :=
  Table.ext (eq_of_lookup table.distinct sameKeys sameValues)

/-- Storing pairs with different keys into a table that has none of them appends them. -/
theorem entries_foldl_set (pairs : List (String × Value)) (table : Table Value)
    (distinct : (table.keys ++ pairs.map (·.1)).Nodup) :
    (pairs.foldl (fun table pair => table.set pair.1 pair.2) table).entries =
      table.entries ++ pairs := by
  induction pairs generalizing table with
  | nil => simp
  | cons pair rest inductionHypothesis =>
      have fresh : pair.1 ∉ table.keys := by
        intro present
        exact (List.nodup_append.mp distinct).2.2 _ present _ List.mem_cons_self rfl
      have stored : (table.set pair.1 pair.2).entries = table.entries ++ [pair] :=
        setEntry_of_notMem fresh pair.2
      have continued : ((table.set pair.1 pair.2).keys ++ rest.map (·.1)).Nodup := by
        rw [keys_set, if_neg fresh, List.append_assoc]
        exact distinct
      rw [List.foldl_cons, inductionHypothesis _ continued, stored, List.append_assoc]
      rfl

/-- The entries of a table, stored one after the other, give the table. -/
@[simp]
theorem ofList_entries (table : Table Value) : ofList table.entries = table :=
  Table.ext (entries_foldl_set table.entries .empty table.distinct)

end Table

end FacetedSearch
