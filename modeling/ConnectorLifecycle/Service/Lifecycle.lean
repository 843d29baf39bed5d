import ConnectorLifecycle.Service

/-!
# Bringing a service up and taking it down

A start resolves the address, derives the properties, builds a connector, starts it and asks for its
transport; the first of these that fails ends the start, everything is taken down again and the
service is `failed`. A stop never fails: an error of the connector's own stop is reported and the
service ends `stopped`. A connector is let go of before it is asked to stop, so it is never asked
twice, not even if its stop aborts. Nothing is caught, and a start that finds the service half way
through an earlier operation takes down what that one left before it begins anew. A new attempt
insists on finding no properties.
-/

namespace ConnectorLifecycle

namespace Service

variable {F : Type}

/-- Report an event of the endpoint. -/
def reportEvent (s : Service F) (event : EndpointEvent) : Step F Unit :=
  Step.report (.endpoint s.logger event)

/-- Change the phase, and say so if the change is not expected. -/
def changePhase (s : Service F) (phase : Phase) : Step F Unit := do
  let before := (← Step.state).phase
  if before.allows phase then pure ()
  else Step.report (.unexpectedChange s.name before phase)
  Step.report (.changed s.name before phase)
  Step.modify fun st => { st with phase }

/-- The handle of the running connector. -/
def runningHandle? (s : Service F) (st : State F) : Option Handle :=
  if st.phase.isRunning then
    st.transport.map fun transport => { service := s.name, kind := s.kind, transport }
  else none

/-- Let go of a connector and stop it. -/
def stopConnector (s : Service F) (env : Surroundings F) (connector : Instance F) :
    Step F Unit := do
  Step.modify fun st => { st with connector := none }
  s.reportEvent .connectorStopping
  match ← Step.ask (.stop connector) (env.stop connector) with
  | .ok () => pure ()
  | .error cause => s.reportEvent (.connectorStopFailed cause)
  s.reportEvent .connectorStopped

/-- Stop the connector if there is one, and forget its transport and properties. -/
def teardown (s : Service F) (env : Surroundings F) : Step F Unit := do
  match (← Step.state).connector with
  | some connector => s.stopConnector env connector
  | none => pure ()
  Step.modify fun st =>
    { st with transport := none, connectorBag := Table.empty, transferBag := Table.empty }

/-- The address to listen on, if the settings name a binding. -/
def resolveBinding (s : Service F) (env : Surroundings F) : Step F (Option SocketAddress) :=
  match s.settings.socketBinding with
  | none => pure none
  | some binding => do
    let answer ← Step.ask (.resolve binding) (env.resolve binding)
    let address ← Step.require (.unresolved s.name) answer
    pure (some address)

/-- Start a connector with a bag and ask it for its transport. -/
def startConnector (s : Service F) (env : Surroundings F) (connector : Instance F)
    (bag : PropertyBag) : Step F Handle := do
  let answer ← Step.ask (.start connector bag s.manager) (env.start connector bag s.manager)
  Step.require (.notStarted s.name) answer
  let view ← Step.ask (.transport connector) (env.transport connector bag)
  let transport : Transport := ⟨connector.number, ← Step.require (.noTransport s.name) view⟩
  Step.modify fun st => { st with transport := some transport }
  pure { service := s.name, kind := s.kind, transport }

/-- Build a connector for the properties of the state, hold it, and start it. -/
def bringUpConnector (s : Service F) (env : Surroundings F) : Step F Handle := do
  let bag := (← Step.state).properties
  let built ← Step.create env s.factory
  let connector ← Step.require (.notBuilt s.name) built
  s.reportEvent (.connectorStarting bag.size)
  Step.modify fun st => { st with connector := some connector }
  s.startConnector env connector bag

/-- Derive the properties and, if they say where to listen, bring a connector up. -/
def bringUp (s : Service F) (env : Surroundings F) : Step F Handle := do
  let binding ← s.resolveBinding env
  Step.modify fun st =>
    { st with
      connectorBag := s.settings.connectorProperties binding
      transferBag := s.settings.transferProperties }
  if (s.settings.connectorProperties binding).definesConnector then s.bringUpConnector env
  else Step.fail (.noListener s.name)

/-- Take down what an operation left that was cut short. -/
def recover (s : Service F) (env : Surroundings F) : Step F Unit := do
  let phase := (← Step.state).phase
  if phase.canStart then pure ()
  else do
    Step.report (.recovering s.name phase)
    s.teardown env
    Step.modify fun st => { st with phase := .failed }

/-- Insist that no properties are left over from an earlier attempt. -/
def insistEmptyBags : Step F Unit := do
  Step.insist (← Step.state).connectorBag.isEmpty "inner.connector_properties.is_empty()"
  Step.insist (← Step.state).transferBag.isEmpty "inner.state_transfer_properties.is_empty()"

/-- A new attempt, from a state in which nothing is held. -/
def startAnew (s : Service F) (env : Surroundings F) : Step F Handle := do
  s.changePhase .starting
  s.reportEvent .starting
  match ← Step.attempt (s.bringUp env) with
  | .ok handle => do
    s.changePhase .running
    s.reportEvent (.started handle.transport.view.address)
    pure handle
  | .error failure => do
    s.reportEvent (.startFailed failure)
    s.teardown env
    s.changePhase .failed
    Step.fail failure

/-- Start the connector, or give the handle of the one that runs. -/
def start (s : Service F) (env : Surroundings F) : Step F Handle := do
  match s.runningHandle? (← Step.state) with
  | some handle => do
    Step.report (.alreadyRunning s.name)
    pure handle
  | none => do
    s.recover env
    insistEmptyBags
    s.startAnew env

/-- Stop the connector if one is held, and end `stopped`. -/
def stop (s : Service F) (env : Surroundings F) : Step F Unit := do
  if (← Step.state).phase.isRunning then s.changePhase .stopping else pure ()
  s.teardown env
  s.changePhase .stopped

/-- The handle of the running connector, or a failure that names the phase. -/
def handle (s : Service F) (st : State F) : Except Failure Handle :=
  match s.runningHandle? st with
  | some handle => .ok handle
  | none => .error (.notRunning s.name st.phase)

/-- Give the service up, stopping a connector that is still held. -/
def drop (s : Service F) (env : Surroundings F) : Step F Unit := do
  match (← Step.state).connector with
  | some _ => do
    Step.report (.droppedWhileHolding s.name)
    s.stop env
  | none => pure ()

end Service

end ConnectorLifecycle
