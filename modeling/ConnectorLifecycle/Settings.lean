/-!
# Declared settings

Each setting of a connector is present or absent, and nothing is derived from an absent one. Two
values have a default when they are used: the number of worker threads, and lazy retrieval, whose
negation says whether state is transferred.
-/

namespace ConnectorLifecycle

/-- The state transfer block of a connector's settings. -/
structure StateTransfer where
  /-- How long to wait for locks. -/
  lockTimeout : Option UInt64 := none
  /-- How long to wait for replication. -/
  replicationTimeout : Option UInt64 := none
  /-- How long to wait for topology updates. -/
  updateTimeout : Option UInt64 := none
  /-- The host under which clients reach the connector. -/
  externalHost : Option String := none
  /-- The port under which clients reach the connector. -/
  externalPort : Option UInt16 := none
  /-- Whether state is fetched only when it is asked for. -/
  lazyRetrieval : Option Bool := none
  deriving DecidableEq, Repr

/-- State is transferred unless retrieval is lazy, which it is not by default. -/
def StateTransfer.transfersState (block : StateTransfer) : Bool :=
  !block.lazyRetrieval.getD false

/-- The settings of one connector. -/
structure Settings where
  /-- The name that tells services of one kind apart. -/
  name : Option String := none
  /-- The cache container to serve. -/
  cacheContainer : Option String := none
  /-- The socket binding to listen on. -/
  socketBinding : Option String := none
  /-- The number of worker threads. -/
  workerThreads : Option UInt32 := none
  /-- How long a connection may be idle. -/
  idleTimeout : Option Int64 := none
  /-- Whether small packets are sent at once. -/
  tcpNodelay : Option Bool := none
  /-- The size of the send buffer. -/
  sendBufferSize : Option UInt32 := none
  /-- The size of the receive buffer. -/
  receiveBufferSize : Option UInt32 := none
  /-- The state transfer block. -/
  stateTransfer : Option StateTransfer := none
  deriving DecidableEq, Repr

/-- The number of worker threads when none is declared. -/
def defaultWorkerThreads : UInt32 := 160

/-- The number of worker threads that a connector gets. -/
def Settings.workers (s : Settings) : UInt32 := s.workerThreads.getD defaultWorkerThreads

/-- A connector kind with its settings. -/
structure Definition where
  /-- The kind of connector. -/
  kind : String
  /-- Its settings. -/
  settings : Settings
  deriving DecidableEq, Repr

end ConnectorLifecycle
