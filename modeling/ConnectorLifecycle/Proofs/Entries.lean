import ConnectorLifecycle.Proofs.Lookup
import ConnectorLifecycle.Proofs.Properties

/-!
# Tables and their entries

A table answers with exactly the entries that it lists, and no key is listed twice. So the entries
of a table make the table again, and a list without repeated keys makes one table in whatever order
it is written. A merge answers with the second table first, and is as large as both tables less the
keys that they share; the laws of merging follow from its answers. If the two tables share no key it
does not matter which one is merged into the other.
-/

namespace ConnectorLifecycle

/-- Without repeated keys, what is last under a key is all that is under it. -/
theorem lastUnder_iff_mem {α : Type} {key : String} {value : α} {entries : List (String × α)}
    (distinct : (entries.map Prod.fst).Nodup) :
    LastUnder key value entries ↔ (key, value) ∈ entries := by
  constructor
  · rintro ⟨before, after, rfl, _⟩
    exact List.mem_append_cons_self
  · intro hmem
    obtain ⟨before, after, rfl⟩ := List.append_of_mem hmem
    refine ⟨before, after, rfl, ?_⟩
    rw [List.map_append, List.map_cons, List.nodup_append, List.nodup_cons] at distinct
    exact distinct.2.1.1

namespace Table

variable {α : Type}

/-- The keys of a table are different from each other. -/
theorem nodup_keys (t : Table α) : (t.entries.map Prod.fst).Nodup := t.ascending.imp Precedes.ne

/-- In entries with different keys, the first one of a key is the last one. -/
theorem find_reverse {entries : List (String × α)} (distinct : (entries.map Prod.fst).Nodup)
    (key : String) : find key entries.reverse = find key entries := by
  induction entries with
  | nil => rfl
  | cons e rest ih =>
    obtain ⟨k, v⟩ := e
    rw [List.map_cons, List.nodup_cons] at distinct
    rw [List.reverse_cons, find_append, ih distinct.2]
    by_cases h : k = key
    · subst h
      rw [find_eq_none_iff.mpr distinct.1, find, if_pos rfl, find, if_pos rfl, Option.none_or]
    · simp [find, h]

/-- The entries of a table make the table. -/
theorem ofList_entries (t : Table α) : ofList t.entries = t := by
  apply ext_get
  intro key
  rw [ofList, get?_insertAll, get?_empty, Option.or_none, find_reverse t.nodup_keys]
  rfl

/-- A table answers with the entries that it lists. -/
theorem get?_eq_some_iff_mem {t : Table α} {key : String} {value : α} :
    t.get? key = some value ↔ (key, value) ∈ t.entries := by
  rw [← lastUnder_iff_mem t.nodup_keys, ← get?_ofList_eq_some_iff, ofList_entries]

/-- Entries with different keys make one table in whatever order they are written. -/
theorem ofList_of_perm {xs ys : List (String × α)} (perm : xs.Perm ys)
    (distinct : (xs.map Prod.fst).Nodup) : ofList xs = ofList ys := by
  have distinct' : (ys.map Prod.fst).Nodup := (perm.map Prod.fst).nodup_iff.mp distinct
  apply ext_get
  intro key
  apply Option.ext
  intro value
  rw [get?_ofList_eq_some_iff, get?_ofList_eq_some_iff, lastUnder_iff_mem distinct,
    lastUnder_iff_mem distinct', perm.mem_iff]

/-- A merge answers as the second table does, and else as the first one. -/
theorem get?_merge (t u : Table α) (key : String) :
    (t.merge u).get? key = (u.get? key).or (t.get? key) := by
  rw [merge, get?_insertAll, find_reverse u.nodup_keys]
  rfl

/-- Lists that are written one after the other make the merge of their tables. -/
theorem merge_ofList (xs ys : List (String × α)) :
    (ofList xs).merge (ofList ys) = ofList (xs ++ ys) := by
  apply ext_get
  intro key
  have hlist (entries : List (String × α)) :
      (ofList entries).get? key = find key entries.reverse := by
    rw [ofList, get?_insertAll, get?_empty, Option.or_none]
  rw [get?_merge, hlist, hlist, hlist, List.reverse_append, find_append]

/-- A merge does not depend on which two of three tables are merged first. -/
theorem merge_assoc (t u v : Table α) : (t.merge u).merge v = t.merge (u.merge v) := by
  apply ext_get
  intro key
  rw [get?_merge, get?_merge, get?_merge, get?_merge, Option.or_assoc]

/-- A table merged with itself stays. -/
theorem merge_self (t : Table α) : t.merge t = t := by
  apply ext_get
  intro key
  rw [get?_merge, Option.or_self]

/-- Merging the empty table into one changes nothing. -/
theorem merge_empty (t : Table α) : t.merge empty = t := rfl

/-- Merging a table into the empty one makes it again. -/
theorem empty_merge (t : Table α) : empty.merge t = t := ofList_entries t

/-- A merge has the keys of the second table and those of the first one that the second has not. -/
theorem keys_merge (t u : Table α) :
    (t.merge u).keys.Perm (t.keys.filter (fun key => !u.contains key) ++ u.keys) := by
  have apart : (t.keys.filter (fun key => !u.contains key) ++ u.keys).Nodup := by
    refine List.nodup_append.mpr ⟨t.nodup_keys.filter _, u.nodup_keys, ?_⟩
    rintro key ht _ hu rfl
    have absent := (List.mem_filter.mp ht).2
    have present : u.contains key = true := mem_keys_iff.mp hu
    rw [present] at absent
    cases absent
  refine (List.perm_ext_iff_of_nodup (t.merge u).nodup_keys apart).mpr fun key => ?_
  change key ∈ (t.merge u).keys ↔ _
  rw [mem_keys_iff, List.mem_append, List.mem_filter, mem_keys_iff, mem_keys_iff]
  change (t.merge u).contains key = true ↔
    t.contains key = true ∧ (!u.contains key) = true ∨ u.contains key = true
  rw [contains_merge]
  cases u.contains key <;> simp

/-- A merge is as large as both tables together, less the keys that they share. -/
theorem size_merge (t u : Table α) :
    (t.merge u).size + (t.keys.filter u.contains).length = t.size + u.size := by
  have hlength := (t.keys_merge u).length_eq
  have hsplit := (List.filter_append_perm u.contains t.keys).length_eq
  simp only [size, keys, List.length_append, List.length_map] at hlength hsplit ⊢
  omega

/-- Two tables have no key in common. -/
def Disjoint (t u : Table α) : Prop := ∀ key, ¬ (t.contains key = true ∧ u.contains key = true)

/-- Tables without a common key are merged one way as the other. -/
theorem Disjoint.merge_comm {t u : Table α} (h : t.Disjoint u) : t.merge u = u.merge t := by
  apply ext_get
  intro key
  rw [get?_merge, get?_merge]
  cases ht : t.get? key with
  | none => rw [Option.or_none, Option.none_or]
  | some v =>
    cases hu : u.get? key with
    | none => rw [Option.or_none, Option.none_or]
    | some w => exact absurd ⟨by rw [contains, ht]; rfl, by rw [contains, hu]; rfl⟩ (h key)

/-- A merge of tables without a common key is as large as both together. -/
theorem Disjoint.size_merge {t u : Table α} (h : t.Disjoint u) :
    (t.merge u).size = t.size + u.size := by
  have none_shared : t.keys.filter u.contains = [] := by
    refine List.filter_eq_nil_iff.mpr fun key ht hu => ?_
    exact h key ⟨mem_keys_iff.mp ht, hu⟩
  rw [← Table.size_merge, none_shared, List.length_nil, Nat.add_zero]

end Table

end ConnectorLifecycle
