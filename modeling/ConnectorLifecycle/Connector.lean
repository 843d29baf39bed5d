import ConnectorLifecycle.Notice
import ConnectorLifecycle.Properties

/-!
# Connectors and what surrounds them

A connector is built by a factory, is started once with a bag and a cache manager, is asked once for
its transport, and is stopped once. The library sees of it only what its calls answer: these answers
are the `Surroundings` of an operation, and every call made is an entry of the journal, in order
with the notices. Instances are numbered in the order in which they are built.
-/

namespace ConnectorLifecycle

/-- A connector that a factory has built. -/
structure Instance (F : Type) where
  /-- The factory that built it. -/
  factory : F
  /-- Its number among all that were built. -/
  number : Nat
  deriving DecidableEq, Repr

/-- A cache manager, known by the name of its container. -/
structure CacheManager where
  /-- The name of the container. -/
  container : String
  /-- Which manager it is, as containers may be managed anew. -/
  id : Nat
  deriving DecidableEq, Repr

/-- What can be seen of a transport. -/
structure TransportView where
  /-- The address that it is bound to, once it is. -/
  address : Option SocketAddress
  /-- The number of its worker threads. -/
  workers : Nat
  deriving DecidableEq, Repr

/-- The transport of a running connector. -/
structure Transport where
  /-- The number of the connector that gave it. -/
  connector : Nat
  /-- What can be seen of it. -/
  view : TransportView
  deriving DecidableEq, Repr

/-- What a client holds of a running connector. -/
structure Handle where
  /-- The name of the service. -/
  service : String
  /-- The kind of the connector. -/
  kind : String
  /-- The connector's transport. -/
  transport : Transport
  deriving DecidableEq, Repr

/-- A call of somebody else's code. -/
inductive Call (F : Type) where
  /-- A binding is asked for its address. -/
  | resolve (binding : String)
  /-- A factory is asked for a connector, and built the one of that number. -/
  | create (factory : F) (number : Option Nat)
  /-- A connector is started. -/
  | start (connector : Instance F) (bag : PropertyBag) (manager : CacheManager)
  /-- A connector is asked for its transport. -/
  | transport (connector : Instance F)
  /-- A connector is stopped. -/
  | stop (connector : Instance F)
  deriving DecidableEq

/-- Something that happened: a report or a call. -/
inductive Entry (F : Type) where
  /-- Something was reported. -/
  | notice (notice : Notice)
  /-- Somebody else's code was called. -/
  | call (call : Call F)
  deriving DecidableEq

/-- All that happened, in order. -/
abbrev Journal (F : Type) := List (Entry F)

/-- What the collaborators answer while one operation runs. -/
structure Surroundings (F : Type) where
  /-- The address of a binding. -/
  resolve : String → Outcome BindingFailure SocketAddress
  /-- Whether a factory builds a connector. -/
  create : F → Outcome CauseChain Unit
  /-- Whether a connector starts. -/
  start : Instance F → PropertyBag → CacheManager → Outcome CauseChain Unit
  /-- The transport of a connector that was started with a bag. -/
  transport : Instance F → PropertyBag → Outcome CauseChain TransportView
  /-- Whether a connector stops. -/
  stop : Instance F → Outcome CauseChain Unit

end ConnectorLifecycle
