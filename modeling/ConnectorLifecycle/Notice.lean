import ConnectorLifecycle.Address.Printing
import ConnectorLifecycle.Failure

/-!
# What is logged

Every record that the library writes is a `Notice` first: an event with the facts that it reports.
`Notice.record` gives its level, its target and its message. Events of one endpoint go through that
endpoint's own logger, which names a target and the service; all other records go to the target of
the part of the library that they belong to.
-/

namespace ConnectorLifecycle

/-- How urgent a record is. -/
inductive Level where
  /-- Something did not succeed. -/
  | error
  /-- Something unexpected was coped with. -/
  | warn
  /-- A step that an operator follows. -/
  | info
  /-- A detail. -/
  | debug
  deriving DecidableEq, Repr

/-- The name of a level. -/
def Level.text : Level → String
  | error => "ERROR"
  | warn => "WARN"
  | info => "INFO"
  | debug => "DEBUG"

/-- A written log record. -/
structure LogRecord where
  /-- How urgent it is. -/
  level : Level
  /-- Which part of the program wrote it. -/
  target : String
  /-- What it says. -/
  message : String
  deriving DecidableEq, Repr

/-- Where the records of one endpoint go and whom they name. -/
structure Logger where
  /-- The target of the records. -/
  target : String
  /-- The service that they name. -/
  service : String
  deriving DecidableEq, Repr

/-- The target of an endpoint's records unless another one is chosen. -/
def Logger.defaultTarget : String := "dd_endpoint"

/-- The logger of a service under the usual target. -/
def Logger.ofService (service : String) : Logger := ⟨defaultTarget, service⟩

/-- What happens to one endpoint. -/
inductive EndpointEvent where
  /-- A start begins. -/
  | starting
  /-- A start succeeded, and the transport may tell its address. -/
  | started (address : Option SocketAddress)
  /-- A built connector is about to be started with a number of properties. -/
  | connectorStarting (properties : Nat)
  /-- A start failed. -/
  | startFailed (failure : Failure)
  /-- A connector is about to be stopped. -/
  | connectorStopping
  /-- A connector answered its stop with an error. -/
  | connectorStopFailed (cause : CauseChain)
  /-- A connector is gone. -/
  | connectorStopped
  deriving DecidableEq, Repr

namespace EndpointEvent

/-- How urgent an event is. -/
def level : EndpointEvent → Level
  | starting | started _ | connectorStopping | connectorStopped => .info
  | connectorStarting _ => .debug
  | startFailed _ => .error
  | connectorStopFailed _ => .warn

/-- What is said of an event. -/
def text : EndpointEvent → String
  | starting => "endpoint starting"
  | started (some a) => "endpoint started on " ++ a.text
  | started none => "endpoint started"
  | connectorStarting n => s!"connector starting with {n} properties"
  | startFailed f => "start failed: " ++ f.line
  | connectorStopping => "connector stopping"
  | connectorStopFailed c => "connector stop failed: " ++ c.line
  | connectorStopped => "connector stopped"

end EndpointEvent

/-- Everything that the library reports. -/
inductive Notice where
  /-- An event of an endpoint, through its logger. -/
  | endpoint (logger : Logger) (event : EndpointEvent)
  /-- A service changes its phase. -/
  | changed (service : String) (before after : Phase)
  /-- A change of phase that was not expected. -/
  | unexpectedChange (service : String) (before after : Phase)
  /-- A start of a service that runs. -/
  | alreadyRunning (service : String)
  /-- A start of a service that an earlier operation left half way. -/
  | recovering (service : String) (phase : Phase)
  /-- A service is given up while it holds a connector. -/
  | droppedWhileHolding (service : String)
  /-- A kind gets its first factory. -/
  | registered (kind : String)
  /-- A kind gets another factory. -/
  | registeredAgain (kind : String)
  /-- A group was built. -/
  | groupBuilt (services : Nat)
  /-- One service of a group did not start. -/
  | memberFailed (service : String) (failure : Failure)
  /-- A group was started as far as possible. -/
  | groupStarted (started total : Nat)
  /-- A file that no definition is read from. -/
  | skippedOther (path : String)
  /-- A file whose text cannot be read. -/
  | skippedUnreadable (path : String)
  /-- A file whose text is no definition. -/
  | skippedUndecodable (path : String)
  deriving DecidableEq, Repr

/-- The written record of a notice. Where a file was skipped because it could not be read or
decoded, the record goes on with the cause, in the words of the system or of the decoder. These
words are not modelled: the message given here ends before them. -/
def Notice.record : Notice → LogRecord
  | endpoint logger event => ⟨event.level, logger.target, s!"[{logger.service}] {event.text}"⟩
  | changed s p q => ⟨.debug, "dd_endpoint::service", s!"[{s}] {p.text} -> {q.text}"⟩
  | unexpectedChange s p q =>
    ⟨.warn, "dd_endpoint::service", s!"[{s}] unexpected transition {p.text} -> {q.text}"⟩
  | alreadyRunning s => ⟨.debug, "dd_endpoint::service", s!"[{s}] already running"⟩
  | recovering s p =>
    ⟨.warn, "dd_endpoint::service",
      s!"[{s}] recovering from interrupted transition in state {p.text}"⟩
  | droppedWhileHolding s =>
    ⟨.warn, "dd_endpoint::service", s!"[{s}] dropped while running, stopping connector"⟩
  | registered k => ⟨.debug, "dd_endpoint::registry", s!"registered connector kind '{k}'"⟩
  | registeredAgain k =>
    ⟨.warn, "dd_endpoint::registry",
      s!"connector kind '{k}' registered twice, keeping the latest factory"⟩
  | groupBuilt n => ⟨.info, "dd_endpoint::group", s!"built {n} endpoint service(s)"⟩
  | memberFailed s f => ⟨.error, "dd_endpoint::group", s!"[{s}] not started: {f.message}"⟩
  | groupStarted k n => ⟨.info, "dd_endpoint::group", s!"started {k}/{n} endpoint(s)"⟩
  | skippedOther path => ⟨.debug, "dd_endpoint::config", s!"skipping non-YAML file: {path}"⟩
  | skippedUnreadable path =>
    ⟨.warn, "dd_endpoint::config", s!"skipping {path}: reading {path}"⟩
  | skippedUndecodable path =>
    ⟨.warn, "dd_endpoint::config", s!"skipping {path}: parsing {path}"⟩

end ConnectorLifecycle
