import ConnectorLifecycle.Connector
import ConnectorLifecycle.Registry

/-!
# Services and their steps

A service fixes what never changes: its name, kind, settings, factory, cache manager and logger. Its
`State` holds the phase, the connector with its transport, and the two groups of properties. An
operation is a `Step`: it may change the state and the number of the next connector, it appends to
the journal, and it ends with an outcome. A step that aborts keeps every change made before, and
nothing after it happens.
-/

namespace ConnectorLifecycle

/-- What a service is built from. -/
structure Service (F : Type) where
  /-- The name in messages and for lookup. -/
  name : String
  /-- The kind of connector. -/
  kind : String
  /-- The declared settings. -/
  settings : Settings
  /-- The factory that was registered for the kind when the service was built. -/
  factory : F
  /-- The cache manager that every connector is started with. -/
  manager : CacheManager
  /-- Where its endpoint events are reported. -/
  logger : Logger
  deriving DecidableEq

/-- The name of a service: its kind, followed by the declared name if there is one. -/
def serviceName (kind : String) : Option String → String
  | some name => kind ++ " " ++ name
  | none => kind

/-- Build a service, which needs a factory for its kind. -/
def Service.build {F : Type} (definition : Definition) (registry : Registry F)
    (manager : CacheManager) : Except Failure (Service F) :=
  match registry.factory definition.kind with
  | .error e => .error e
  | .ok factory =>
    let name := serviceName definition.kind definition.settings.name
    .ok { name, kind := definition.kind, settings := definition.settings, factory, manager,
          logger := Logger.ofService name }

/-- What an operation may change. -/
structure State (F : Type) where
  /-- Where the service stands. -/
  phase : Phase := .created
  /-- The connector that has to be stopped. -/
  connector : Option (Instance F) := none
  /-- The transport of the running connector. -/
  transport : Option Transport := none
  /-- The properties from the address and the socket settings. -/
  connectorBag : PropertyBag := Table.empty
  /-- The properties from the state transfer block. -/
  transferBag : PropertyBag := Table.empty
  deriving DecidableEq

instance {F : Type} : Inhabited (State F) := ⟨{}⟩

/-- The properties in force, none unless a connector is up. -/
def State.properties {F : Type} (st : State F) : PropertyBag := st.connectorBag.merge st.transferBag

/-- A state together with the number that the next connector gets. -/
structure Situation (F : Type) where
  /-- The state of the service. -/
  state : State F
  /-- The number of the next connector. -/
  next : Nat
  deriving DecidableEq

/-- An operation: from a situation to an outcome, a situation and what happened. -/
def Step (F α : Type) := Situation F → Outcome Failure α × Situation F × Journal F

namespace Step

variable {F α β : Type}

/-- End with a value. -/
def done (a : α) : Step F α := fun sit => (.ok a, sit, [])

/-- Go on after a step that ended with a value. -/
def andThen (step : Step F α) (rest : α → Step F β) : Step F β := fun sit =>
  match step sit with
  | (.ok a, sit', journal) =>
    let (outcome, sit'', journal') := rest a sit'
    (outcome, sit'', journal ++ journal')
  | (.error f, sit', journal) => (.error f, sit', journal)
  | (.abort m, sit', journal) => (.abort m, sit', journal)

instance : Monad (Step F) where
  pure := done
  bind := andThen

/-- The state as it is. -/
def state : Step F (State F) := fun sit => (.ok sit.state, sit, [])

/-- Change the state. -/
def modify (change : State F → State F) : Step F Unit := fun sit =>
  (.ok (), { sit with state := change sit.state }, [])

/-- End with a failure. -/
def fail (f : Failure) : Step F α := fun sit => (.error f, sit, [])

/-- Go on if a condition holds; one that does not is a defect, and the step unwinds. -/
def insist (holds : Bool) (condition : String) : Step F Unit := fun sit =>
  if holds then (.ok (), sit, []) else (.abort ("assertion failed: " ++ condition), sit, [])

/-- Report something. -/
def report (notice : Notice) : Step F Unit := fun sit => (.ok (), sit, [.notice notice])

/-- Note a call whose answer is already known; an answer that aborts is passed on. -/
def ask {ε : Type} (call : Call F) (answer : Outcome ε α) : Step F (Except ε α) := fun sit =>
  match answer with
  | .ok a => (.ok (.ok a), sit, [.call call])
  | .error e => (.ok (.error e), sit, [.call call])
  | .abort m => (.abort m, sit, [.call call])

/-- Ask a factory for a connector, which gets the next number. -/
def create (env : Surroundings F) (factory : F) : Step F (Except CauseChain (Instance F)) :=
  fun sit =>
    match env.create factory with
    | .ok () =>
      (.ok (.ok ⟨factory, sit.next⟩), { sit with next := sit.next + 1 },
        [.call (.create factory (some sit.next))])
    | .error e => (.ok (.error e), sit, [.call (.create factory none)])
    | .abort m => (.abort m, sit, [.call (.create factory none)])

/-- Do a step and go on even if it fails. -/
def attempt (step : Step F α) : Step F (Except Failure α) := fun sit =>
  match step sit with
  | (.ok a, sit', journal) => (.ok (.ok a), sit', journal)
  | (.error f, sit', journal) => (.ok (.error f), sit', journal)
  | (.abort m, sit', journal) => (.abort m, sit', journal)

/-- End with the value that a result holds, or with the failure made of its error. -/
def require {ε : Type} (failure : ε → Failure) : Except ε α → Step F α
  | .ok a => done a
  | .error e => fail (failure e)

end Step

end ConnectorLifecycle
