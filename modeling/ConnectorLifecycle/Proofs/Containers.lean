import ConnectorLifecycle.Proofs.Lookup

/-!
# The default container and its manager

The name that stands for "no container named" and the managers are filled side by side, in any
order: a default may be chosen before the first manager is added, or name a container that nobody
added. The two do not depend on each other. The default is the name that was chosen last, or else
that of the container that was added first, and a look-up without a name is one by the default.
-/

namespace ConnectorLifecycle.Containers

/-- The names that steps choose as the default, in order. -/
def chosen (edits : List Edit) : List String :=
  edits.filterMap fun
    | .choose name => some name
    | .add _ => none

/-- Steps change a default to the name that they choose last; if they choose none, one that is there
stays, and else the first container added becomes it. -/
theorem default?_foldl_edit (containers : Containers) (edits : List Edit) :
    (edits.foldl edit containers).default? =
      (chosen edits).getLast?.or
        (containers.default?.or ((added edits).head?.map Prod.fst)) := by
  induction edits generalizing containers with
  | nil => simp [chosen, added]
  | cons e rest ih =>
    rw [List.foldl_cons, ih]
    cases e with
    | add manager =>
      change (chosen rest).getLast?.or ((containers.default?.or (some manager.container)).or _) =
        (chosen rest).getLast?.or (containers.default?.or (some manager.container))
      rw [Option.or_assoc, Option.some_or]
    | choose name =>
      change (chosen rest).getLast?.or ((some name).or _) = (name :: chosen rest).getLast?.or _
      rw [List.getLast?_cons]
      cases (chosen rest).getLast? <;> rfl

/-- The default is the name that was chosen last, or else that of the container added first. -/
theorem default?_ofEdits (edits : List Edit) :
    (ofEdits edits).default? =
      (chosen edits).getLast?.or ((added edits).head?.map Prod.fst) :=
  default?_foldl_edit {} edits

/-- A look-up by name finds the manager that was added last under it. -/
theorem find_some_eq_ok_iff {edits : List Edit} {name : String} {manager : CacheManager} :
    (ofEdits edits).find (some name) = .ok manager ↔ LastUnder name manager (added edits) := by
  rw [find_eq_ok_iff]
  simp

/-- A look-up by name fails only where no container of the name was added, and says so. -/
theorem find_some_eq_error_iff {edits : List Edit} {name : String} {f : Failure} :
    (ofEdits edits).find (some name) = .error f ↔
      f = .unknownContainer name ∧ name ∉ (added edits).map Prod.fst := by
  rw [← Table.get?_ofList_eq_none_iff, find, managers_ofEdits]
  cases hget : (Table.ofList (added edits)).get? name with
  | none => simp [hget, eq_comm]
  | some manager => simp [hget]

/-- A look-up without a name is one by the default, if there is one. -/
theorem find_none (containers : Containers) :
    containers.find none =
      match containers.default? with
      | some name => containers.find (some name)
      | none => .error (.unknownContainer "<default>") := by
  cases h : containers.default? with
  | none => rw [find, h]; rfl
  | some name => rw [find, h]; rfl

/-- A manager of the default container that is added is found where none is named, whichever one
was found before. -/
theorem find_none_add {containers : Containers} {manager : CacheManager}
    (h : containers.default? = some manager.container) :
    (containers.add manager).find none = .ok manager := by
  have kept : (containers.add manager).default? = some manager.container := by
    rw [add, h, Option.some_or]
  rw [find_none, kept]
  exact containers.find_add_self manager

/-- A manager that is found by a name is one of that container. -/
theorem container_of_find {edits : List Edit} {name : String} {manager : CacheManager}
    (h : (ofEdits edits).find (some name) = .ok manager) : manager.container = name := by
  obtain ⟨before, after, split, _⟩ := find_some_eq_ok_iff.mp h
  exact container_of_mem_added (split ▸ List.mem_append_cons_self)

/-- However containers are added and defaults chosen: the default is the name chosen last, or else
that of the first container added, or else there is none. A look-up by name gives the manager added
last under it, which is one of that very container, and fails exactly if there is none. Without a
name the default is looked up, so a manager added anew for it takes the place of the old one, and a
default that names no container fails by its name. -/
theorem managers_by_name_or_default (edits : List Edit) :
    let containers := ofEdits edits
    containers.default? = (chosen edits).getLast?.or ((added edits).head?.map Prod.fst) ∧
    (∀ name manager, containers.find (some name) = .ok manager ↔
      LastUnder name manager (added edits)) ∧
    (∀ name f, containers.find (some name) = .error f ↔
      f = .unknownContainer name ∧ name ∉ (added edits).map Prod.fst) ∧
    (∀ name manager, containers.find (some name) = .ok manager → manager.container = name) ∧
    (∀ name, containers.default? = some name →
      containers.find none = containers.find (some name)) ∧
    (containers.default? = none →
      containers.find none = .error (.unknownContainer "<default>")) ∧
    (∀ manager, containers.default? = some manager.container →
      (ofEdits (edits ++ [.add manager])).find none = .ok manager) ∧
    ∀ name, containers.default? = some name → name ∉ (added edits).map Prod.fst →
      containers.find none = .error (.unknownContainer name) := by
  intro containers
  refine ⟨default?_ofEdits edits, ?_, ?_, ?_, ?_, ?_, ?_, ?_⟩
  · exact fun name manager => find_some_eq_ok_iff
  · exact fun name f => find_some_eq_error_iff
  · exact fun name manager => container_of_find
  · intro name hdefault
    rw [find_none, hdefault]
  · intro hdefault
    rw [find_none, hdefault]
  · intro manager hdefault
    rw [ofEdits, List.foldl_append]
    exact find_none_add hdefault
  · intro name hdefault unknown
    rw [find_none, hdefault]
    exact find_some_eq_error_iff.mpr ⟨rfl, unknown⟩

end ConnectorLifecycle.Containers
