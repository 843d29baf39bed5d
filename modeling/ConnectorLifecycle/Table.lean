import ConnectorLifecycle.Text.ByteOrder

/-!
# Finite tables with text keys

A table holds at most one value under each key and lists its entries in strictly ascending order
of the keys' bytes. Ascending order is part of the type, so a table is determined by its lookups:
`Table.ext_get` says that two tables with the same answers are the same table, however they were
filled. Writing a key replaces its value, and merging lets the second table win.
-/

namespace ConnectorLifecycle

/-- A finite map from texts, listed by ascending key. -/
structure Table (α : Type) where
  /-- Keys with their values. -/
  entries : List (String × α)
  /-- No key is repeated and keys ascend. -/
  ascending : AscendingTexts (entries.map Prod.fst)
  deriving DecidableEq

namespace Table

variable {α β : Type}

/-- Look a key up in a list of entries. -/
def find (key : String) : List (String × α) → Option α
  | [] => none
  | (k, v) :: rest => if k = key then some v else find key rest

/-- Write a key into an ascending list of entries. -/
def put (key : String) (value : α) : List (String × α) → List (String × α)
  | [] => [(key, value)]
  | (k, v) :: rest =>
    if Precedes key k then (key, value) :: (k, v) :: rest
    else if key = k then (key, value) :: rest
    else (k, v) :: put key value rest

/-- Writing a key adds that key and loses none. -/
theorem mem_keys_put {key k : String} {value : α} {entries : List (String × α)} :
    k ∈ (put key value entries).map Prod.fst ↔ k = key ∨ k ∈ entries.map Prod.fst := by
  induction entries with
  | nil => simp [put]
  | cons e rest ih =>
    obtain ⟨k', v'⟩ := e
    rw [put]
    split
    · simp
    · split
      · next h => subst h; simp
      · rw [List.map_cons, List.mem_cons, ih, List.map_cons, List.mem_cons]
        exact or_left_comm

/-- Writing a key keeps the entries ascending. -/
theorem ascending_put {key : String} {value : α} {entries : List (String × α)}
    (h : AscendingTexts (entries.map Prod.fst)) :
    AscendingTexts ((put key value entries).map Prod.fst) := by
  induction entries with
  | nil => simp [put, AscendingTexts]
  | cons e rest ih =>
    obtain ⟨k, v⟩ := e
    have hrest := (List.pairwise_cons.mp h).2
    have hhead := (List.pairwise_cons.mp h).1
    rw [put]
    split
    · next hlt =>
      refine List.pairwise_cons.mpr ⟨fun x hx => ?_, h⟩
      rcases List.mem_cons.mp hx with rfl | hx
      · exact hlt
      · exact hlt.trans (hhead x hx)
    · next hnlt =>
      split
      · next heq => subst heq; exact List.pairwise_cons.mpr ⟨hhead, hrest⟩
      · next hne =>
        refine List.pairwise_cons.mpr ⟨fun x hx => ?_, ih hrest⟩
        rcases mem_keys_put.mp hx with rfl | hx
        · exact Precedes.of_not_of_ne hnlt hne
        · exact hhead x hx

/-- The written key reads back. -/
theorem find_put_self (key : String) (value : α) (entries : List (String × α)) :
    find key (put key value entries) = some value := by
  induction entries with
  | nil => simp [put, find]
  | cons e rest ih =>
    obtain ⟨k, v⟩ := e
    rw [put]
    split
    · simp [find]
    · split
      · simp [find]
      · next hne => simp [find, Ne.symm hne, ih]

/-- Every other key keeps its value. -/
theorem find_put_of_ne {key k : String} (value : α) (h : k ≠ key)
    (entries : List (String × α)) : find k (put key value entries) = find k entries := by
  induction entries with
  | nil => simp [put, find, Ne.symm h]
  | cons e rest ih =>
    obtain ⟨k', v'⟩ := e
    rw [put]
    split
    · simp [find, Ne.symm h]
    · split
      · next heq => subst heq; simp [find, Ne.symm h]
      · simp [find, ih]

/-- A key has a value exactly if it is listed. -/
theorem find_isSome_iff {key : String} {entries : List (String × α)} :
    (find key entries).isSome ↔ key ∈ entries.map Prod.fst := by
  induction entries with
  | nil => simp [find]
  | cons e rest ih =>
    obtain ⟨k, v⟩ := e
    by_cases h : k = key
    · simp [find, h]
    · simp only [find, if_neg h, ih, List.map_cons, List.mem_cons]
      constructor
      · exact Or.inr
      · rintro (rfl | h')
        · exact absurd rfl h
        · exact h'

/-- Ascending entries are determined by what they answer. -/
theorem eq_of_find_eq {xs ys : List (String × α)}
    (hx : AscendingTexts (xs.map Prod.fst)) (hy : AscendingTexts (ys.map Prod.fst))
    (h : ∀ k, find k xs = find k ys) : xs = ys := by
  induction xs generalizing ys with
  | nil =>
    cases ys with
    | nil => rfl
    | cons e rest => simpa [find] using h e.1
  | cons e xs ih =>
    obtain ⟨k, v⟩ := e
    cases ys with
    | nil => simpa [find] using h k
    | cons e' ys =>
      obtain ⟨k', v'⟩ := e'
      have hx' := List.pairwise_cons.mp hx
      have hy' := List.pairwise_cons.mp hy
      have hk : k = k' := by
        rcases Classical.em (k = k') with hk | hk
        · exact hk
        · exfalso
          have hin : k ∈ ys.map Prod.fst := by
            have := h k
            simp only [find, if_true, if_neg (Ne.symm hk)] at this
            exact find_isSome_iff.mp (by rw [← this]; rfl)
          have hin' : k' ∈ xs.map Prod.fst := by
            have := h k'
            simp only [find, if_true, if_neg hk] at this
            exact find_isSome_iff.mp (by rw [this]; rfl)
          exact (hx'.1 k' hin').asymm (hy'.1 k hin)
      subst hk
      have hv : v = v' := by simpa [find] using h k
      subst hv
      rw [ih hx'.2 hy'.2 fun q => ?_]
      rcases Classical.em (k = q) with hq | hq
      · subst hq
        have notin : ∀ {zs : List (String × α)}, (∀ a ∈ zs.map Prod.fst, Precedes k a) →
            find k zs = none := by
          intro zs hz
          rcases hf : find k zs with _ | w
          · rfl
          · exact absurd (hz k (find_isSome_iff.mp (by rw [hf]; rfl))) (Precedes.irrefl k)
        rw [notin hx'.1, notin hy'.1]
      · simpa [find, hq] using h q

/-- The table without entries. -/
def empty : Table α := ⟨[], List.Pairwise.nil⟩

instance : EmptyCollection (Table α) := ⟨empty⟩

instance : Inhabited (Table α) := ⟨empty⟩

/-- The value under a key, if there is one. -/
def get? (t : Table α) (key : String) : Option α := find key t.entries

/-- The table with one key written, replacing the value it had. -/
def insert (t : Table α) (key : String) (value : α) : Table α :=
  ⟨put key value t.entries, ascending_put t.ascending⟩

/-- The keys in ascending order. -/
def keys (t : Table α) : List String := t.entries.map Prod.fst

/-- The number of keys. -/
def size (t : Table α) : Nat := t.entries.length

/-- A table without keys. -/
def isEmpty (t : Table α) : Bool := t.entries.isEmpty

/-- A key that has a value. -/
def contains (t : Table α) (key : String) : Bool := (t.get? key).isSome

/-- Write a list of entries one after the other, so the last one of a key stays. -/
def insertAll (t : Table α) (entries : List (String × α)) : Table α :=
  entries.foldl (fun t e => t.insert e.1 e.2) t

/-- The table of a list of entries, the last one of a key staying. -/
def ofList (entries : List (String × α)) : Table α := empty.insertAll entries

/-- Both tables together, the second one's values replacing the first one's. -/
def merge (t u : Table α) : Table α := t.insertAll u.entries

@[simp] theorem get?_empty (key : String) : (empty : Table α).get? key = none := rfl

/-- A write shows at its key and nowhere else. -/
theorem get?_insert (t : Table α) (key k : String) (value : α) :
    (t.insert key value).get? k = if k = key then some value else t.get? k := by
  split
  · next h => subst h; exact find_put_self _ _ _
  · next h => exact find_put_of_ne value h _

/-- Tables with the same answers are equal. -/
theorem ext_get {t u : Table α} (h : ∀ k, t.get? k = u.get? k) : t = u := by
  obtain ⟨xs, hx⟩ := t
  obtain ⟨ys, hy⟩ := u
  have := eq_of_find_eq hx hy h
  subst this
  rfl

/-- A key is listed exactly if it has a value. -/
theorem mem_keys_iff {t : Table α} {key : String} : key ∈ t.keys ↔ (t.get? key).isSome :=
  find_isSome_iff.symm

/-- The keys of a table ascend. -/
theorem ascending_keys (t : Table α) : AscendingTexts t.keys := t.ascending

end Table

end ConnectorLifecycle
