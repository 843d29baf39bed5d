import ConnectorLifecycle.Connector

/-!
# Cache containers

Managers are found by the names of their containers. One name is the default for settings that name
no container: the first one added, unless a default is chosen. A chosen default need not exist.
-/

namespace ConnectorLifecycle

/-- Cache managers by container, with the container used when none is named. -/
structure Containers where
  /-- The container used when none is named. -/
  default? : Option String := none
  /-- Managers by the names of their containers. -/
  managers : Table CacheManager := Table.empty

namespace Containers

/-- Add a manager; the first one also becomes the default if there is none yet. -/
def add (containers : Containers) (manager : CacheManager) : Containers where
  default? := containers.default?.or (some manager.container)
  managers := containers.managers.insert manager.container manager

/-- Choose the default container. -/
def withDefault (containers : Containers) (name : String) : Containers :=
  { containers with default? := some name }

/-- The manager of a container, or of the default one. -/
def find (containers : Containers) (name : Option String) : Except Failure CacheManager :=
  match name.or containers.default? with
  | none => .error (.unknownContainer "<default>")
  | some n =>
    match containers.managers.get? n with
    | some manager => .ok manager
    | none => .error (.unknownContainer n)

/-- A manager is found by the name of its container once it is added. -/
theorem find_add_self (containers : Containers) (manager : CacheManager) :
    (containers.add manager).find (some manager.container) = .ok manager := by
  simp [find, add, Table.get?_insert]

/-- The first manager added is found where no container is named. -/
theorem find_add_none (manager : CacheManager) :
    (({} : Containers).add manager).find none = .ok manager := by
  simp [find, add, Table.get?_insert]

/-- Adding a manager does not change what is found by another name. -/
theorem find_add_of_ne (containers : Containers) {manager : CacheManager} {name : String}
    (h : name ≠ manager.container) :
    (containers.add manager).find (some name) = containers.find (some name) := by
  simp [find, add, Table.get?_insert, h]

end Containers

end ConnectorLifecycle
