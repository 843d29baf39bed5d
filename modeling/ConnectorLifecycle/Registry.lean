import ConnectorLifecycle.Failure
import ConnectorLifecycle.Notice
import ConnectorLifecycle.Table
import ConnectorLifecycle.Text.Quotation

/-!
# Registered connector kinds

A registry gives each connector kind the factory that was registered for it last. A second
registration of a kind replaces the first and is reported as such. A registry is shown by its kinds
alone, as factories have no text.
-/

namespace ConnectorLifecycle

/-- Factories by the kinds that they build. -/
abbrev Registry (F : Type) := Table F

namespace Registry

variable {F : Type}

/-- Register a factory for a kind, and say whether the kind had one. -/
def register (registry : Registry F) (kind : String) (factory : F) : Registry F × Notice :=
  (registry.insert kind factory,
    if registry.contains kind then .registeredAgain kind else .registered kind)

/-- Register factories in order. -/
def registerAll (registry : Registry F) : List (String × F) → Registry F × List Notice
  | [] => (registry, [])
  | (kind, factory) :: rest =>
    let (next, notice) := register registry kind factory
    let (last, notices) := registerAll next rest
    (last, notice :: notices)

/-- The factory of a kind. -/
def factory (registry : Registry F) (kind : String) : Except Failure F :=
  match registry.get? kind with
  | some f => .ok f
  | none => .error (.unknownKind kind)

/-- The registered kinds in ascending order. -/
def kinds (registry : Registry F) : List String := registry.keys

/-- How a registry is shown to a programmer. -/
def description (registry : Registry F) : String :=
  let kinds := registry.keys.map fun kind => "ConnectorKind(" ++ quoted kind ++ ")"
  "ConnectorRegistry \x7b kinds: [" ++ ", ".intercalate kinds ++ "] \x7d"

end Registry

end ConnectorLifecycle
