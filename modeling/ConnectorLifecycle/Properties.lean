import ConnectorLifecycle.Address.Printing
import ConnectorLifecycle.Settings
import ConnectorLifecycle.Table

/-!
# Properties handed to connectors

A connector is started with a table of texts, made of two groups: what follows from the resolved
address and the socket settings, and what follows from the state transfer block. The second group
is merged last. A bag defines a connector if it says where to listen.
-/

namespace ConnectorLifecycle

/-- Named texts, in the order of their names. -/
abbrev PropertyBag := Table String

namespace PropertyBag

/-- The host to listen on. -/
def hostKey : String := "server.host"

/-- The port to listen on. -/
def portKey : String := "server.port"

/-- The number of worker threads. -/
def workerThreadsKey : String := "server.worker_threads"

/-- How long a connection may be idle. -/
def idleTimeoutKey : String := "server.idle_timeout"

/-- Whether small packets are sent at once. -/
def tcpNoDelayKey : String := "server.tcp_no_delay"

/-- The size of the send buffer. -/
def sendBufferKey : String := "server.send_buf_size"

/-- The size of the receive buffer. -/
def receiveBufferKey : String := "server.recv_buf_size"

/-- How long to wait for locks. -/
def lockTimeoutKey : String := "server.topology.lock_timeout"

/-- How long to wait for replication. -/
def replicationTimeoutKey : String := "server.topology.repl_timeout"

/-- How long to wait for topology updates. -/
def updateTimeoutKey : String := "server.topology.update_timeout"

/-- Whether state is transferred. -/
def stateTransferKey : String := "server.topology.state_transfer"

/-- The host that clients are told. -/
def proxyHostKey : String := "server.proxy_host"

/-- The port that clients are told. -/
def proxyPortKey : String := "server.proxy_port"

/-- A bag says where to listen if it names a host or a port. -/
def definesConnector (bag : PropertyBag) : Bool := bag.contains hostKey || bag.contains portKey

/-- All entries on one line. -/
def text (bag : PropertyBag) : String :=
  ", ".intercalate (bag.entries.map fun (key, value) => key ++ "=" ++ value)

/-- The bag of the values that are present. -/
def ofPresent (entries : List (String × Option String)) : PropertyBag :=
  Table.ofList (entries.filterMap fun (key, value) => value.map fun v => (key, v))

end PropertyBag

open PropertyBag

/-- The group that follows from the address and the socket settings. -/
def Settings.connectorProperties (s : Settings) (binding : Option SocketAddress) : PropertyBag :=
  ofPresent
    [(hostKey, binding.map fun a => a.ip.text),
      (portKey, binding.map fun a => decimalText a.port.toNat),
      (workerThreadsKey, some (decimalText s.workers.toNat)),
      (idleTimeoutKey, s.idleTimeout.map fun n => signedText n.toInt),
      (tcpNoDelayKey, s.tcpNodelay.map flagText),
      (sendBufferKey, s.sendBufferSize.map fun n => decimalText n.toNat),
      (receiveBufferKey, s.receiveBufferSize.map fun n => decimalText n.toNat)]

/-- The group that follows from a state transfer block. -/
def StateTransfer.properties (block : StateTransfer) : PropertyBag :=
  ofPresent
    [(lockTimeoutKey, block.lockTimeout.map fun n => decimalText n.toNat),
      (replicationTimeoutKey, block.replicationTimeout.map fun n => decimalText n.toNat),
      (updateTimeoutKey, block.updateTimeout.map fun n => decimalText n.toNat),
      (proxyHostKey, block.externalHost),
      (proxyPortKey, block.externalPort.map fun n => decimalText n.toNat),
      (stateTransferKey, some (flagText block.transfersState))]

/-- The state transfer group, empty without a block. -/
def Settings.transferProperties (s : Settings) : PropertyBag :=
  match s.stateTransfer with
  | some block => block.properties
  | none => Table.empty

/-- Everything that a connector with these settings at this address is started with. -/
def Settings.properties (s : Settings) (binding : Option SocketAddress) : PropertyBag :=
  (s.connectorProperties binding).merge s.transferProperties

end ConnectorLifecycle
