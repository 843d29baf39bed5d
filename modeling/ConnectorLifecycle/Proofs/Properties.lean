import ConnectorLifecycle.Properties

/-!
# Which bags say where to listen

A table that was filled from a list has exactly the keys of the list, and a merge has the keys of
both tables. So the group that follows from an address and the socket settings is never empty, as it
always has the number of worker threads, and it says where to listen exactly if there is an address.
-/

namespace ConnectorLifecycle

namespace Table

variable {α : Type}

/-- Writing a list of entries adds their keys and loses none. -/
theorem contains_insertAll (t : Table α) (entries : List (String × α)) (k : String) :
    (t.insertAll entries).contains k = true ↔
      t.contains k = true ∨ k ∈ entries.map Prod.fst := by
  induction entries generalizing t with
  | nil => simp [insertAll]
  | cons e rest ih =>
    change ((t.insert e.1 e.2).insertAll rest).contains k = true ↔ _
    rw [ih, contains, get?_insert]
    by_cases h : k = e.1
    · simp [h]
    · simp [h, contains]

/-- A table made of a list has the keys of the list. -/
theorem contains_ofList (entries : List (String × α)) (k : String) :
    (ofList entries).contains k = true ↔ k ∈ entries.map Prod.fst := by
  rw [ofList, contains_insertAll]
  simp [contains]

/-- A merge has the keys of both tables. -/
theorem contains_merge (t u : Table α) (k : String) :
    (t.merge u).contains k = true ↔ t.contains k = true ∨ u.contains k = true := by
  rw [merge, contains_insertAll]
  exact or_congr_right mem_keys_iff

/-- A table with a key is not empty. -/
theorem isEmpty_of_contains {t : Table α} {k : String} (h : t.contains k = true) :
    t.isEmpty = false := by
  obtain ⟨entries, ascending⟩ := t
  cases entries with
  | nil => simp [contains, get?, find] at h
  | cons e rest => rfl

@[simp] theorem isEmpty_empty : (empty : Table α).isEmpty = true := rfl

end Table

open PropertyBag

/-- A bag of optional values has the keys of those that are present. -/
theorem PropertyBag.contains_ofPresent (entries : List (String × Option String)) (k : String) :
    (ofPresent entries).contains k = true ↔ ∃ e ∈ entries, e.1 = k ∧ e.2.isSome = true := by
  rw [ofPresent, Table.contains_ofList, List.mem_map]
  constructor
  · rintro ⟨⟨_, v⟩, hmem, rfl⟩
    obtain ⟨⟨key, value⟩, he, hv⟩ := List.mem_filterMap.mp hmem
    obtain ⟨w, rfl, hw⟩ := Option.map_eq_some_iff.mp hv
    exact ⟨(key, some w), he, congrArg Prod.fst hw, rfl⟩
  · rintro ⟨⟨key, value⟩, he, rfl, hv⟩
    obtain ⟨w, rfl⟩ := Option.isSome_iff_exists.mp hv
    exact ⟨(key, w), List.mem_filterMap.mpr ⟨_, he, rfl⟩, rfl⟩

namespace Settings

/-- The number of worker threads is always told. -/
theorem contains_workerThreads (s : Settings) (binding : Option SocketAddress) :
    (s.connectorProperties binding).contains workerThreadsKey = true := by
  rw [connectorProperties, contains_ofPresent]
  exact ⟨_, List.mem_cons_of_mem _ (List.mem_cons_of_mem _ List.mem_cons_self), rfl, rfl⟩

/-- The group of the socket settings says where to listen exactly if there is an address. -/
theorem definesConnector_connectorProperties (s : Settings) (binding : Option SocketAddress) :
    (s.connectorProperties binding).definesConnector = binding.isSome := by
  rw [Bool.eq_iff_iff, definesConnector, Bool.or_eq_true, connectorProperties, contains_ofPresent,
    contains_ofPresent]
  cases binding with
  | none =>
    simp [hostKey, portKey, workerThreadsKey, idleTimeoutKey, tcpNoDelayKey, sendBufferKey,
      receiveBufferKey]
  | some address => simp

/-- What a connector is started with is never empty. -/
theorem isEmpty_properties (s : Settings) (binding : Option SocketAddress) :
    (s.properties binding).isEmpty = false :=
  Table.isEmpty_of_contains
    ((Table.contains_merge _ _ _).mpr (.inl (s.contains_workerThreads binding)))

end Settings

end ConnectorLifecycle
