/-!
Tables keyed by text, in the order in which their keys arrived.

No key is there twice.  Writing to a key that is present replaces its value and moves nothing;
writing to a new key puts it at the end; erasing a key closes the gap.
-/

namespace FacetedSearch

/-- Entries in the order of arrival of their keys. -/
@[ext]
structure Table (Value : Type) where
  entries : List (String × Value)
  distinct : (entries.map (·.1)).Nodup
deriving DecidableEq

namespace Table

variable {Value : Type}

def empty : Table Value :=
  ⟨[], .nil⟩

/-- The keys in order of arrival. -/
def keys (table : Table Value) : List String :=
  table.entries.map (·.1)

@[simp]
theorem nodup_keys (table : Table Value) : table.keys.Nodup :=
  table.distinct

def get? (table : Table Value) (key : String) : Option Value :=
  table.entries.lookup key

/-- Replaces the value of the first entry of a key, or appends a new entry. -/
def setEntry (key : String) (value : Value) :
    List (String × Value) → List (String × Value)
  | [] => [(key, value)]
  | entry :: rest =>
      if entry.1 = key then (key, value) :: rest else entry :: setEntry key value rest

theorem mem_setEntry {key : String} {value : Value} {entries : List (String × Value)}
    {entry : String × Value} (listed : entry ∈ setEntry key value entries) :
    entry = (key, value) ∨ entry ∈ entries := by
  induction entries with
  | nil => exact .inl (List.mem_singleton.mp listed)
  | cons first rest inductionHypothesis =>
      unfold setEntry at listed
      split at listed
      next =>
        rcases List.mem_cons.mp listed with stored | later
        · exact .inl stored
        · exact .inr (List.mem_cons_of_mem first later)
      next =>
        rcases List.mem_cons.mp listed with rfl | later
        · exact .inr List.mem_cons_self
        · exact (inductionHypothesis later).imp_right (List.mem_cons_of_mem first)

theorem nodup_setEntry {entries : List (String × Value)} (distinct : (entries.map (·.1)).Nodup)
    (key : String) (value : Value) : ((setEntry key value entries).map (·.1)).Nodup := by
  induction entries with
  | nil => exact List.pairwise_singleton _ key
  | cons first rest inductionHypothesis =>
      obtain ⟨fresh, restDistinct⟩ := List.nodup_cons.mp distinct
      by_cases same : first.1 = key
      · subst same
        rw [setEntry, if_pos rfl]
        exact distinct
      · rw [setEntry, if_neg same]
        refine List.nodup_cons.mpr ⟨?_, inductionHypothesis restDistinct⟩
        intro again
        obtain ⟨entry, listed, named⟩ := List.mem_map.mp again
        rcases mem_setEntry listed with rfl | old
        · exact same named.symm
        · exact fresh (named ▸ List.mem_map_of_mem old)

/-- The table with a value stored under a key. -/
def set (table : Table Value) (key : String) (value : Value) : Table Value :=
  ⟨setEntry key value table.entries, nodup_setEntry table.distinct key value⟩

theorem nodup_filter (table : Table Value) (keeps : String × Value → Bool) :
    ((table.entries.filter keeps).map (·.1)).Nodup :=
  List.Pairwise.sublist (List.filter_sublist.map _) table.distinct

def erase (table : Table Value) (key : String) : Table Value :=
  ⟨table.entries.filter fun entry => entry.1 ≠ key, table.nodup_filter _⟩

/-- The table obtained by storing the pairs of a list from left to right. -/
def ofList (pairs : List (String × Value)) : Table Value :=
  pairs.foldl (fun table pair => table.set pair.1 pair.2) empty

@[simp]
theorem map_fst_map {Result : Type} (f : Value → Result) (entries : List (String × Value)) :
    (entries.map fun entry => (entry.1, f entry.2)).map (·.1) = entries.map (·.1) :=
  List.map_map

/-- Applies a function to every value. -/
def map {Result : Type} (f : Value → Result) (table : Table Value) : Table Result :=
  ⟨table.entries.map fun entry => (entry.1, f entry.2),
    (map_fst_map f table.entries).symm ▸ table.distinct⟩

end Table

end FacetedSearch
