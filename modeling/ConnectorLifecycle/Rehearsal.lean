import ConnectorLifecycle.Address.Reading
import ConnectorLifecycle.Bindings
import ConnectorLifecycle.Connector

/-!
# Rehearsed collaborators

A rehearsal runs services against collaborators that follow a script. Factories are known by labels,
and each label has a script that says how its factory and the calls of its connectors end and which
address the transport shows. Bindings are looked up in a table, except for names that are scripted.
-/

namespace ConnectorLifecycle

/-- The address that a scripted transport shows. -/
inductive ScriptedAddress where
  /-- The address that the properties name. -/
  | fromProperties
  /-- No address. -/
  | absent
  /-- One address whatever the properties say. -/
  | fixed (address : SocketAddress)
  deriving DecidableEq, Repr

/-- How one factory and its connectors behave. -/
structure Script where
  /-- How building a connector ends. -/
  create : Outcome CauseChain Unit := .ok ()
  /-- How starting one ends. -/
  start : Outcome CauseChain Unit := .ok ()
  /-- How asking one for its transport ends. -/
  transport : Outcome CauseChain Unit := .ok ()
  /-- How stopping one ends. -/
  stop : Outcome CauseChain Unit := .ok ()
  /-- The address that the transport shows. -/
  address : ScriptedAddress := .fromProperties
  deriving DecidableEq, Repr

/-- How the look-up of one binding ends, other than by the table. -/
inductive ScriptedBinding where
  /-- The binding's text is no address. -/
  | malformed (address : String)
  /-- The look-up aborts. -/
  | abort (message : String)
  deriving DecidableEq, Repr

/-- Everything that the collaborators of a rehearsal go by. -/
structure Rehearsal where
  /-- Scripts by the labels of their factories. -/
  scripts : Table Script := Table.empty
  /-- The binding table. -/
  bindings : Bindings := Table.empty
  /-- The bindings whose look-up is scripted. -/
  scripted : Table ScriptedBinding := Table.empty

namespace Rehearsal

/-- The script of a label; without one everything succeeds. -/
def script (r : Rehearsal) (label : String) : Script := (r.scripts.get? label).getD {}

/-- Change the script of a label. -/
def change (r : Rehearsal) (label : String) (edit : Script → Script) : Rehearsal :=
  { r with scripts := r.scripts.insert label (edit (r.script label)) }

/-- The address that the properties name. -/
def addressOf (bag : PropertyBag) : Option SocketAddress := do
  let host ← bag.get? PropertyBag.hostKey
  let port ← bag.get? PropertyBag.portKey
  some (.ofParts (← IpAddress.ofText? host) (← port? port.toList))

/-- The transport of a scripted connector. -/
def view (script : Script) (bag : PropertyBag) : TransportView where
  address :=
    match script.address with
    | .fromProperties => addressOf bag
    | .absent => none
    | .fixed a => some a
  workers :=
    ((bag.get? PropertyBag.workerThreadsKey).bind fun s => numeral? 10 s.toList).getD 0

/-- What the scripted collaborators answer. -/
def surroundings (r : Rehearsal) : Surroundings String where
  resolve name :=
    match r.scripted.get? name with
    | some (.malformed address) => .error (.malformed name address)
    | some (.abort m) => .abort m
    | none => .ofExcept (Bindings.resolve r.bindings name)
  create label := (r.script label).create
  start connector _ _ := (r.script connector.factory).start
  transport connector bag :=
    let script := r.script connector.factory
    script.transport.map fun _ => view script bag
  stop connector := (r.script connector.factory).stop

end Rehearsal

end ConnectorLifecycle
