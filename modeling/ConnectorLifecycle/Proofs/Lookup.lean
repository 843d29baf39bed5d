import ConnectorLifecycle.Containers
import ConnectorLifecycle.Registry

/-!
# What look-ups find in what was filled step by step

A registry and a set of cache containers are both filled one entry after the other. A table that was
filled from a list answers with the last entry of a key, so a registry gives the factory that was
registered last for a kind, and the containers give the manager that was added last under a name.
A manager is filed under the name of its own container, which is why a look-up by name never gives
the manager of another one.
-/

namespace ConnectorLifecycle

/-- The last entry of a list under a key. -/
def LastUnder {α : Type} (key : String) (value : α) (entries : List (String × α)) : Prop :=
  ∃ before after, entries = before ++ (key, value) :: after ∧ key ∉ after.map Prod.fst

namespace Table

variable {α : Type}

/-- A key that is not listed is not found. -/
theorem find_eq_none_iff {key : String} {entries : List (String × α)} :
    find key entries = none ↔ key ∉ entries.map Prod.fst := by
  rw [← find_isSome_iff, Option.not_isSome_iff_eq_none]

/-- A look-up finds the first entry of a key. -/
theorem find_eq_some_iff {key : String} {value : α} {entries : List (String × α)} :
    find key entries = some value ↔
      ∃ before after, entries = before ++ (key, value) :: after ∧ key ∉ before.map Prod.fst := by
  induction entries with
  | nil => simp [find]
  | cons e rest ih =>
    obtain ⟨k, v⟩ := e
    by_cases h : k = key
    · subst h
      rw [find, if_pos rfl]
      constructor
      · intro hv
        cases hv
        exact ⟨[], rest, rfl, List.not_mem_nil⟩
      · rintro ⟨before, after, split, absent⟩
        cases before with
        | nil =>
          obtain ⟨hentry, _⟩ := List.cons.inj split
          exact congrArg some (congrArg Prod.snd hentry)
        | cons first before =>
          obtain ⟨rfl, _⟩ := List.cons.inj split
          exact absurd List.mem_cons_self absent
    · rw [find, if_neg h, ih]
      constructor
      · rintro ⟨before, after, rfl, absent⟩
        refine ⟨(k, v) :: before, after, rfl, ?_⟩
        rw [List.map_cons, List.mem_cons]
        exact fun hmem => hmem.elim (fun heq => h heq.symm) absent
      · rintro ⟨before, after, split, absent⟩
        cases before with
        | nil => exact absurd (congrArg Prod.fst (List.cons.inj split).1) h
        | cons first before =>
          exact ⟨before, after, (List.cons.inj split).2,
            fun hmem => absent (List.mem_cons_of_mem _ hmem)⟩

/-- In two lists together the first one is looked through first. -/
theorem find_append (key : String) (xs ys : List (String × α)) :
    find key (xs ++ ys) = (find key xs).or (find key ys) := by
  induction xs with
  | nil => rfl
  | cons e rest ih =>
    obtain ⟨k, v⟩ := e
    by_cases h : k = key
    · simp [find, h]
    · simp [find, h, ih]

/-- Writing a list of entries makes the last one of a key count, and else what was there before. -/
theorem get?_insertAll (t : Table α) (entries : List (String × α)) (key : String) :
    (t.insertAll entries).get? key = (find key entries.reverse).or (t.get? key) := by
  induction entries generalizing t with
  | nil => rfl
  | cons e rest ih =>
    obtain ⟨k, v⟩ := e
    change ((t.insert k v).insertAll rest).get? key = _
    rw [ih, get?_insert, List.reverse_cons, find_append, Option.or_assoc]
    by_cases h : key = k
    · simp [find, h]
    · simp [find, h, Ne.symm h]

/-- A table made of a list has under a key what the list has last under it. -/
theorem get?_ofList_eq_some_iff {entries : List (String × α)} {key : String} {value : α} :
    (ofList entries).get? key = some value ↔ LastUnder key value entries := by
  rw [ofList, get?_insertAll, get?_empty, Option.or_none, find_eq_some_iff]
  constructor
  · rintro ⟨before, after, split, absent⟩
    refine ⟨after.reverse, before.reverse, ?_, ?_⟩
    · rw [← List.reverse_inj, split]
      simp
    · rwa [List.map_reverse, List.mem_reverse]
  · rintro ⟨before, after, rfl, absent⟩
    refine ⟨after.reverse, before.reverse, by simp, ?_⟩
    rwa [List.map_reverse, List.mem_reverse]

/-- A table made of a list has nothing under a key exactly if the list has not. -/
theorem get?_ofList_eq_none_iff {entries : List (String × α)} {key : String} :
    (ofList entries).get? key = none ↔ key ∉ entries.map Prod.fst := by
  rw [ofList, get?_insertAll, get?_empty, Option.or_none, find_eq_none_iff, List.map_reverse,
    List.mem_reverse]

end Table

/-- A key of a list has a last entry. -/
theorem exists_lastUnder {α : Type} {key : String} {entries : List (String × α)} :
    (∃ value, LastUnder key value entries) ↔ key ∈ entries.map Prod.fst := by
  constructor
  · rintro ⟨value, before, after, rfl, _⟩
    exact List.mem_map_of_mem (f := Prod.fst) List.mem_append_cons_self
  · intro hmem
    cases hget : (Table.ofList entries).get? key with
    | none => exact absurd hmem (Table.get?_ofList_eq_none_iff.mp hget)
    | some value => exact ⟨value, Table.get?_ofList_eq_some_iff.mp hget⟩

namespace Registry

variable {F : Type}

/-- Registering one after the other fills the table. -/
theorem registerAll_fst (registry : Registry F) (registrations : List (String × F)) :
    (registerAll registry registrations).1 = registry.insertAll registrations := by
  induction registrations generalizing registry with
  | nil => rfl
  | cons e rest ih => exact ih _

/-- The registry that a list of registrations makes. -/
def ofRegistrations (registrations : List (String × F)) : Registry F :=
  (registerAll Table.empty registrations).1

/-- The registry that registrations make is the table of them. -/
theorem ofRegistrations_eq (registrations : List (String × F)) :
    ofRegistrations registrations = Table.ofList registrations :=
  registerAll_fst Table.empty registrations

/-- A registry gives the factory that was registered last for a kind. -/
theorem factory_eq_ok_iff {registrations : List (String × F)} {kind : String} {f : F} :
    factory (ofRegistrations registrations) kind = .ok f ↔ LastUnder kind f registrations := by
  rw [factory, ofRegistrations_eq, ← Table.get?_ofList_eq_some_iff]
  cases (Table.ofList registrations).get? kind with
  | none => simp
  | some g => simp

/-- A kind that was never registered has no factory. -/
theorem factory_of_not_mem {registrations : List (String × F)} {kind : String}
    (h : kind ∉ registrations.map Prod.fst) :
    factory (ofRegistrations registrations) kind = .error (.unknownKind kind) := by
  rw [factory, ofRegistrations_eq, Table.get?_ofList_eq_none_iff.mpr h]

end Registry

namespace Containers

/-- A step of filling a set of cache containers. -/
inductive Edit where
  /-- Add a manager. -/
  | add (manager : CacheManager)
  /-- Choose the default container. -/
  | choose (name : String)
  deriving DecidableEq

/-- Make a step. -/
def edit (containers : Containers) : Edit → Containers
  | .add manager => containers.add manager
  | .choose name => containers.withDefault name

/-- The containers that steps make, beginning with none. -/
def ofEdits (edits : List Edit) : Containers := edits.foldl edit {}

/-- The managers that steps add, under the names of their containers, in order. -/
def added (edits : List Edit) : List (String × CacheManager) :=
  edits.filterMap fun
    | .add manager => some (manager.container, manager)
    | .choose _ => none

/-- A manager is filed under the name of its own container. -/
theorem container_of_mem_added {edits : List Edit} {name : String} {manager : CacheManager}
    (h : (name, manager) ∈ added edits) : manager.container = name := by
  obtain ⟨e, _, he⟩ := List.mem_filterMap.mp h
  cases e with
  | add other =>
    cases he
    rfl
  | choose other => cases he

/-- Only the managers added are filed. -/
theorem managers_ofEdits (edits : List Edit) :
    (ofEdits edits).managers = Table.ofList (added edits) := by
  have filed : ∀ (containers : Containers),
      (edits.foldl edit containers).managers = containers.managers.insertAll (added edits) := by
    induction edits with
    | nil => exact fun _ => rfl
    | cons e rest ih =>
      intro containers
      cases e with
      | add manager => exact ih (containers.add manager)
      | choose name => exact ih (containers.withDefault name)
  exact filed {}

/-- The name that a look-up goes by finds the manager that was added last under it. -/
theorem find_eq_ok_iff {edits : List Edit} {name : Option String} {manager : CacheManager} :
    (ofEdits edits).find name = .ok manager ↔
      ∃ n, name.or (ofEdits edits).default? = some n ∧ LastUnder n manager (added edits) := by
  rw [find, managers_ofEdits]
  cases name.or (ofEdits edits).default? with
  | none => simp
  | some n =>
    simp only [Option.some.injEq, exists_eq_left', ← Table.get?_ofList_eq_some_iff]
    cases (Table.ofList (added edits)).get? n with
    | none => simp
    | some m => simp

end Containers

end ConnectorLifecycle
