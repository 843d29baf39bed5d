import ConnectorLifecycle.Proofs.Properties
import ConnectorLifecycle.Proofs.Takedown

/-!
# How a start ends

`Ascent` lists the ends of bringing a connector up, one for each stage whose answer is no value and
one for success; `Attempt` adds what a new attempt makes of them, and `Launch` what a start does
before it attempts anything. Each end comes with the situation that it leaves and with the journal,
so every fact about starting is a case analysis on these lists. An attempt that has properties at
all has an address, because nothing is derived for a connector before the binding was found.
-/

namespace ConnectorLifecycle

open Step

variable {F : Type}

/-- An answer that is no value ends an attempt with a failure made of its error, or unwinds. -/
inductive Outcome.Halts {ε α β : Type} (failure : ε → Failure) :
    Outcome ε α → Outcome Failure β → Prop
  | error (e : ε) : Halts failure (.error e) (.error (failure e))
  | abort (m : String) : Halts failure (.abort m) (.abort m)

/-- An attempt that an answer ends does not succeed. -/
theorem Outcome.Halts.ne_ok {ε α β : Type} {failure : ε → Failure} {answer : Outcome ε α}
    {o : Outcome Failure β} (h : answer.Halts failure o) (b : β) : o ≠ .ok b := by
  rintro rfl
  cases h

/-- An answer that ends an attempt is no value. -/
theorem Outcome.Halts.isOk_eq_false {ε α β : Type} {failure : ε → Failure} {answer : Outcome ε α}
    {o : Outcome Failure β} (h : answer.Halts failure o) : answer.isOk = false := by
  cases h <;> rfl

/-- A failure that comes of an answer is the one made of its error. -/
theorem Outcome.Halts.exists_failure {ε α β : Type} {failure : ε → Failure} {answer : Outcome ε α}
    {f : Failure} (h : answer.Halts failure (.error f : Outcome Failure β)) :
    ∃ e, f = failure e := by
  cases h with
  | error e => exact ⟨e, rfl⟩

/-- An answer is a value, or it halts. -/
theorem Outcome.value_or_halts {ε α β : Type} (failure : ε → Failure) (answer : Outcome ε α) :
    (∃ a, answer = .ok a) ∨ ∃ o : Outcome Failure β, answer.Halts failure o := by
  cases answer with
  | ok a => exact .inl ⟨a, rfl⟩
  | error e => exact .inr ⟨_, .error e⟩
  | abort m => exact .inr ⟨_, .abort m⟩

namespace Service

/-- The connector that the factory of a service builds under a number. -/
def connector (s : Service F) (n : Nat) : Instance F := ⟨s.factory, n⟩

/-- What a connector at an address is started with. -/
def bag (s : Service F) (address : SocketAddress) : PropertyBag :=
  s.settings.properties (some address)

/-- A state whose properties were derived for an address. -/
def laden (s : Service F) (phase : Phase) (connector : Option (Instance F))
    (transport : Option Transport) (address : SocketAddress) : State F where
  phase
  connector
  transport
  connectorBag := s.settings.connectorProperties (some address)
  transferBag := s.settings.transferProperties

@[simp] theorem connector_laden (s : Service F) (phase : Phase) (connector : Option (Instance F))
    (transport : Option Transport) (address : SocketAddress) :
    (s.laden phase connector transport address).connector = connector := rfl

/-- The handle of a transport. -/
def handleOf (s : Service F) (transport : Transport) : Handle :=
  { service := s.name, kind := s.kind, transport }

/-- Without a running connector there is no handle of one. -/
theorem runningHandle?_of_ne_running (s : Service F) {st : State F} (hp : st.phase ≠ .running) :
    s.runningHandle? st = none := by
  have hr : st.phase.isRunning = false := by simpa [Phase.isRunning] using hp
  simp [runningHandle?, hr]

/-- There is a handle exactly while the connector runs, and then it is the one of its transport. -/
theorem runningHandle?_eq_some_iff {s : Service F} {st : State F} {handle : Handle} :
    s.runningHandle? st = some handle ↔
      st.phase = .running ∧ st.transport = some handle.transport ∧
        handle.service = s.name ∧ handle.kind = s.kind := by
  by_cases hp : st.phase = .running
  · have hshown : s.runningHandle? st = st.transport.map s.handleOf := by
      rw [runningHandle?, hp]
      rfl
    rw [hshown, Option.map_eq_some_iff]
    constructor
    · rintro ⟨transport, htransport, rfl⟩
      exact ⟨hp, htransport, rfl, rfl⟩
    · rintro ⟨_, htransport, hservice, hkind⟩
      refine ⟨handle.transport, htransport, ?_⟩
      rw [handleOf, ← hservice, ← hkind]
  · rw [s.runningHandle?_of_ne_running hp]
    exact iff_of_false nofun fun h => hp h.1

/-- The settings name a binding, and the binding has an address. -/
structure Located (s : Service F) (env : Surroundings F) (binding : String)
    (address : SocketAddress) : Prop where
  /-- The binding is the one of the settings. -/
  named : s.settings.socketBinding = some binding
  /-- The look-up gives the address. -/
  found : env.resolve binding = .ok address

/-- What an attempt comes to in the journal until its connector has answered the start. -/
def buildUp (s : Service F) (n : Nat) (binding : String) (address : SocketAddress) : Journal F :=
  [.call (.resolve binding), .call (.create s.factory (some n)),
    .notice (.endpoint s.logger (.connectorStarting (s.bag address).size)),
    .call (.start (s.connector n) (s.bag address) s.manager)]

end Service

variable {s : Service F} {env : Surroundings F} {n : Nat}

/-- The ends of bringing a connector up under a number, from a state that holds nothing. -/
inductive Ascent (s : Service F) (env : Surroundings F) (n : Nat) :
    Outcome Failure Handle → Situation F → Journal F → Prop
  /-- The settings name no binding. -/
  | unbound (unnamed : s.settings.socketBinding = none) :
      Ascent s env n (.error (.noListener s.name))
        ⟨{ phase := .starting
           connectorBag := s.settings.connectorProperties none
           transferBag := s.settings.transferProperties }, n⟩ []
  /-- The binding has no address. -/
  | lookup {binding : String} {o : Outcome Failure Handle}
      (named : s.settings.socketBinding = some binding)
      (halt : Outcome.Halts (.unresolved s.name) (env.resolve binding) o) :
      Ascent s env n o ⟨{ phase := .starting }, n⟩ [.call (.resolve binding)]
  /-- The factory builds nothing. -/
  | build {binding : String} {address : SocketAddress} {o : Outcome Failure Handle}
      (located : s.Located env binding address)
      (halt : Outcome.Halts (.notBuilt s.name) (env.create s.factory) o) :
      Ascent s env n o ⟨s.laden .starting none none address, n⟩
        [.call (.resolve binding), .call (.create s.factory none)]
  /-- The connector does not start. -/
  | start {binding : String} {address : SocketAddress} {o : Outcome Failure Handle}
      (located : s.Located env binding address) (built : env.create s.factory = .ok ())
      (halt : Outcome.Halts (.notStarted s.name)
        (env.start (s.connector n) (s.bag address) s.manager) o) :
      Ascent s env n o ⟨s.laden .starting (some (s.connector n)) none address, n + 1⟩
        (s.buildUp n binding address)
  /-- The connector started and does not give its transport. -/
  | transport {binding : String} {address : SocketAddress} {o : Outcome Failure Handle}
      (located : s.Located env binding address) (built : env.create s.factory = .ok ())
      (started : env.start (s.connector n) (s.bag address) s.manager = .ok ())
      (halt : Outcome.Halts (.noTransport s.name)
        (env.transport (s.connector n) (s.bag address)) o) :
      Ascent s env n o ⟨s.laden .starting (some (s.connector n)) none address, n + 1⟩
        (s.buildUp n binding address ++ [.call (.transport (s.connector n))])
  /-- The connector is up and its transport known. -/
  | up {binding : String} {address : SocketAddress} {view : TransportView}
      (located : s.Located env binding address) (built : env.create s.factory = .ok ())
      (started : env.start (s.connector n) (s.bag address) s.manager = .ok ())
      (shown : env.transport (s.connector n) (s.bag address) = .ok view) :
      Ascent s env n (.ok (s.handleOf ⟨n, view⟩))
        ⟨s.laden .starting (some (s.connector n)) (some ⟨n, view⟩) address, n + 1⟩
        (s.buildUp n binding address ++ [.call (.transport (s.connector n))])

variable {o : Outcome Failure Handle} {sit sit' : Situation F} {j : Journal F}

/-- A connector whose start halts is not asked for its transport. -/
theorem Service.startConnector_of_start_halts {connector : Instance F} {bag : PropertyBag}
    (halt : Outcome.Halts (.notStarted s.name) (env.start connector bag s.manager) o)
    (sit : Situation F) :
    s.startConnector env connector bag sit =
      (o, sit, [.call (.start connector bag s.manager)]) := by
  unfold Service.startConnector
  generalize env.start connector bag s.manager = answer at halt
  cases halt <;> simp [bind_apply]

/-- A connector that started and whose transport halts changes nothing more. -/
theorem Service.startConnector_of_transport_halts {connector : Instance F} {bag : PropertyBag}
    (started : env.start connector bag s.manager = .ok ())
    (halt : Outcome.Halts (.noTransport s.name) (env.transport connector bag) o)
    (sit : Situation F) :
    s.startConnector env connector bag sit =
      (o, sit, [.call (.start connector bag s.manager), .call (.transport connector)]) := by
  unfold Service.startConnector
  generalize env.transport connector bag = answer at halt
  cases halt <;> simp [bind_apply, started]

/-- A connector that started and shows its transport is up. -/
theorem Service.startConnector_of_ok {connector : Instance F} {bag : PropertyBag}
    {view : TransportView} (started : env.start connector bag s.manager = .ok ())
    (shown : env.transport connector bag = .ok view) (sit : Situation F) :
    s.startConnector env connector bag sit =
      (.ok (s.handleOf ⟨connector.number, view⟩),
        { sit with state := { sit.state with transport := some ⟨connector.number, view⟩ } },
        [.call (.start connector bag s.manager), .call (.transport connector)]) := by
  unfold Service.startConnector
  simp [bind_apply, started, shown, handleOf]

/-- With an address, the properties are derived and a connector is brought up for them. -/
theorem Service.bringUp_of_located {binding : String} {address : SocketAddress}
    (located : s.Located env binding address) :
    s.bringUp env ⟨{ phase := .starting }, n⟩ =
      let rest := s.bringUpConnector env ⟨s.laden .starting none none address, n⟩
      (rest.1, rest.2.1, .call (.resolve binding) :: rest.2.2) := by
  unfold Service.bringUp Service.resolveBinding
  simp [bind_apply, located.named, located.found, laden,
    s.settings.definesConnector_connectorProperties]

/-- A built connector is held and started, with the properties of its address. -/
theorem Service.bringUpConnector_of_built {address : SocketAddress}
    (built : env.create s.factory = .ok ()) :
    s.bringUpConnector env ⟨s.laden .starting none none address, n⟩ =
      let rest := s.startConnector env (s.connector n) (s.bag address)
        ⟨s.laden .starting (some (s.connector n)) none address, n + 1⟩
      (rest.1, rest.2.1, .call (.create s.factory (some n)) ::
        .notice (.endpoint s.logger (.connectorStarting (s.bag address).size)) :: rest.2.2) := by
  have hbag : (s.laden .starting none none address).properties = s.bag address := rfl
  have hbuilt (st : State F) : create env s.factory ⟨st, n⟩ = (.ok (.ok (s.connector n)),
      ⟨st, n + 1⟩, [.call (.create s.factory (some n))]) := create_of_ok built ⟨st, n⟩
  have hheld : ({ s.laden .starting none none address with connector := some (s.connector n) } :
      State F) = s.laden .starting (some (s.connector n)) none address := rfl
  unfold Service.bringUpConnector Service.reportEvent
  simp [bind_apply, hbuilt, hbag, hheld]

/-- Bringing a connector up ends in the way listed for it. -/
theorem Ascent.eval (h : Ascent s env n o sit j) :
    s.bringUp env ⟨{ phase := .starting }, n⟩ = (o, sit, j) := by
  cases h with
  | unbound unnamed =>
    unfold Service.bringUp Service.resolveBinding
    simp [bind_apply, unnamed, s.settings.definesConnector_connectorProperties]
  | lookup named halt =>
    unfold Service.bringUp Service.resolveBinding
    generalize hr : env.resolve _ = answer at halt
    cases halt <;> simp [bind_apply, named, hr]
  | build located halt =>
    rw [s.bringUp_of_located located]
    unfold Service.bringUpConnector
    generalize hc : env.create s.factory = answer at halt
    cases halt with
    | error e => simp [bind_apply, create_of_error hc]
    | abort m => simp [bind_apply, create_of_abort hc]
  | start located built halt =>
    rw [s.bringUp_of_located located, s.bringUpConnector_of_built built,
      s.startConnector_of_start_halts halt]
    rfl
  | transport located built started halt =>
    rw [s.bringUp_of_located located, s.bringUpConnector_of_built built,
      s.startConnector_of_transport_halts started halt]
    rfl
  | up located built started shown =>
    rw [s.bringUp_of_located located, s.bringUpConnector_of_built built,
      s.startConnector_of_ok started shown]
    rfl

/-- Every attempt to bring a connector up has one of the listed ends. -/
theorem exists_ascent (s : Service F) (env : Surroundings F) (n : Nat) :
    ∃ o sit j, Ascent s env n o sit j := by
  cases named : s.settings.socketBinding with
  | none => exact ⟨_, _, _, .unbound named⟩
  | some binding =>
  rcases Outcome.value_or_halts (.unresolved s.name) (env.resolve binding) with
    ⟨address, found⟩ | ⟨o, halt⟩
  case inr => exact ⟨_, _, _, .lookup named halt⟩
  have located : s.Located env binding address := ⟨named, found⟩
  rcases Outcome.value_or_halts (.notBuilt s.name) (env.create s.factory) with
    ⟨_, built⟩ | ⟨o, halt⟩
  case inr => exact ⟨_, _, _, .build located halt⟩
  rcases Outcome.value_or_halts (.notStarted s.name)
    (env.start (s.connector n) (s.bag address) s.manager) with ⟨_, started⟩ | ⟨o, halt⟩
  case inr => exact ⟨_, _, _, .start located built halt⟩
  rcases Outcome.value_or_halts (.noTransport s.name)
    (env.transport (s.connector n) (s.bag address)) with ⟨view, shown⟩ | ⟨o, halt⟩
  case inr => exact ⟨_, _, _, .transport located built started halt⟩
  exact ⟨_, _, _, .up located built started shown⟩

/-- Bringing a connector up does not change the phase. -/
theorem Ascent.phase (h : Ascent s env n o sit j) : sit.state.phase = .starting := by
  cases h <;> rfl

/-- Bringing a connector up fails with a failure of the service. -/
theorem Ascent.service_failure {f : Failure} (h : Ascent s env n (.error f) sit j) :
    f.service? = some s.name := by
  cases h with
  | unbound => rfl
  | lookup _ halt | build _ halt | start _ _ halt | transport _ _ _ halt =>
    obtain ⟨e, rfl⟩ := halt.exists_failure
    rfl

/-- The ends of a new attempt, after the change to `starting` was reported. -/
inductive Attempt (s : Service F) (env : Surroundings F) (n : Nat) :
    Outcome Failure Handle → Situation F → Journal F → Prop
  /-- The connector is up. -/
  | up {handle : Handle} {sit : Situation F} {j : Journal F}
      (ascent : Ascent s env n (.ok handle) sit j) :
      Attempt s env n (.ok handle) { sit with state := { sit.state with phase := .running } }
        (j ++ [.notice (.changed s.name .starting .running),
          .notice (.endpoint s.logger (.started handle.transport.view.address))])
  /-- A collaborator unwound. -/
  | cut {m : String} {sit : Situation F} {j : Journal F}
      (ascent : Ascent s env n (.abort m) sit j) : Attempt s env n (.abort m) sit j
  /-- The attempt failed, and what it built is taken down. -/
  | failed {f : Failure} {sit : Situation F} {st : State F} {j j' : Journal F}
      (ascent : Ascent s env n (.error f) sit j)
      (down : Takedown s env sit.state (.ok ()) st j') :
      Attempt s env n (.error f) ⟨{ phase := .failed }, sit.next⟩
        (j ++ [.notice (.endpoint s.logger (.startFailed f))] ++ j' ++
          [.notice (.changed s.name .starting .failed)])
  /-- The attempt failed, and taking down what it built unwound. -/
  | cutDown {f : Failure} {m : String} {sit : Situation F} {st : State F} {j j' : Journal F}
      (ascent : Ascent s env n (.error f) sit j)
      (down : Takedown s env sit.state (.abort m) st j') :
      Attempt s env n (.abort m) ⟨st, sit.next⟩
        (j ++ [.notice (.endpoint s.logger (.startFailed f))] ++ j')

/-- A new attempt ends in the way listed for it. -/
theorem Attempt.eval (h : Attempt s env n o sit j) {p : Phase} (hp : p.canStart = true) :
    s.startAnew env ⟨{ phase := p }, n⟩ =
      (o, sit, .notice (.changed s.name p .starting) ::
        .notice (.endpoint s.logger .starting) :: j) := by
  have hallows : p.allows .starting = true := p.canStart_eq_allows ▸ hp
  have hchanges : s.changes p .starting = [.notice (.changed s.name p .starting)] := by
    simp [Service.changes, hallows]
  unfold Service.startAnew Service.reportEvent
  cases h with
  | up ascent =>
    have hup : s.changes .starting .running = [.notice (.changed s.name .starting .running)] := rfl
    simp [bind_apply, attempt_apply, s.changePhase_apply, hchanges, ascent.eval, ascent.phase, hup]
  | cut ascent =>
    simp [bind_apply, attempt_apply, s.changePhase_apply, hchanges, ascent.eval]
  | failed ascent down =>
    have hdown := down.state_of_ok
    have hfail : s.changes .starting .failed = [.notice (.changed s.name .starting .failed)] := rfl
    simp [bind_apply, attempt_apply, s.changePhase_apply, hchanges, ascent.eval, ascent.phase,
      down.eval, hdown, hfail]
  | cutDown ascent down =>
    simp [bind_apply, attempt_apply, s.changePhase_apply, hchanges, ascent.eval, down.eval]

/-- Every new attempt has one of the listed ends. -/
theorem exists_attempt (s : Service F) (env : Surroundings F) (n : Nat) :
    ∃ o sit j, Attempt s env n o sit j := by
  obtain ⟨o, sit, j, ascent⟩ := exists_ascent s env n
  cases o with
  | ok handle => exact ⟨_, _, _, .up ascent⟩
  | abort m => exact ⟨_, _, _, .cut ascent⟩
  | error f =>
    obtain ⟨o, st, j', down⟩ := exists_takedown s env sit.state
    rcases down.ok_or_abort with rfl | ⟨m, rfl⟩
    · exact ⟨_, _, _, .failed ascent down⟩
    · exact ⟨_, _, _, .cutDown ascent down⟩

/-- The ends of a start. -/
inductive Launch (s : Service F) (env : Surroundings F) (sit : Situation F) :
    Outcome Failure Handle → Situation F → Journal F → Prop
  /-- The connector runs already. -/
  | shown {handle : Handle} (runs : s.runningHandle? sit.state = some handle) :
      Launch s env sit (.ok handle) sit [.notice (.alreadyRunning s.name)]
  /-- Repairing what an earlier operation left unwound. -/
  | cut {m : String} {st : State F} {j : Journal F} (idle : s.runningHandle? sit.state = none)
      (repair : Recovery s env sit.state (.abort m) st j) :
      Launch s env sit (.abort m) ⟨st, sit.next⟩ j
  /-- A new attempt was made from a state that holds nothing. -/
  | anew {p : Phase} {o : Outcome Failure Handle} {sit' : Situation F} {j j' : Journal F}
      (idle : s.runningHandle? sit.state = none)
      (repair : Recovery s env sit.state (.ok ()) { phase := p } j) (ready : p.canStart = true)
      (attempt : Attempt s env sit.next o sit' j') :
      Launch s env sit o sit'
        (j ++ [.notice (.changed s.name p .starting), .notice (.endpoint s.logger .starting)] ++ j')

/-- A start that fails leaves nothing and fails with a failure of the service. -/
theorem Launch.of_error {f : Failure} (h : Launch s env sit (.error f) sit' j) :
    sit'.state = { phase := .failed } ∧ f.service? = some s.name := by
  cases h with
  | anew idle repair ready attempt =>
    cases attempt with
    | failed ascent down => exact ⟨rfl, ascent.service_failure⟩

/-- A start that succeeds returns the handle of the connector that runs. -/
theorem Launch.of_ok {handle : Handle} (h : Launch s env sit (.ok handle) sit' j) :
    sit'.state.phase = .running ∧ s.runningHandle? sit'.state = some handle := by
  cases h with
  | shown runs => exact ⟨(Service.runningHandle?_eq_some_iff.mp runs).1, runs⟩
  | anew idle repair ready attempt =>
    cases attempt with
    | up ascent =>
      refine ⟨rfl, ?_⟩
      cases ascent with
      | up => rfl
      | lookup _ halt | build _ halt | start _ _ halt | transport _ _ _ halt =>
        exact absurd rfl (halt.ne_ok _)

/-- A state that holds nothing has no properties left over. -/
theorem Service.insistEmptyBags_apply (p : Phase) (n : Nat) :
    (Service.insistEmptyBags : Step F Unit) ⟨{ phase := p }, n⟩ =
      (.ok (), ⟨{ phase := p }, n⟩, []) := by
  unfold Service.insistEmptyBags
  simp [bind_apply]

/-- A start ends in the way listed for it. -/
theorem Launch.eval (h : Launch s env sit o sit' j) : s.start env sit = (o, sit', j) := by
  unfold Service.start
  cases h with
  | shown runs => simp [bind_apply, runs]
  | cut idle repair => simp [bind_apply, idle, repair.eval sit.next]
  | anew idle repair ready attempt =>
    simp [bind_apply, idle, repair.eval sit.next, Service.insistEmptyBags_apply,
      attempt.eval ready]

/-- A start has one of the listed ends, if only a phase that cannot start holds anything. -/
theorem exists_launch (s : Service F) (env : Surroundings F) (sit : Situation F)
    (clear : sit.state.phase.canStart = true → sit.state = { phase := sit.state.phase }) :
    ∃ o sit' j, Launch s env sit o sit' j := by
  cases idle : s.runningHandle? sit.state with
  | some handle => exact ⟨_, _, _, .shown idle⟩
  | none =>
    obtain ⟨o, sit', j', attempt⟩ := exists_attempt s env sit.next
    obtain ⟨o', st', j, repair⟩ := exists_recovery s env sit.state
    cases repair with
    | needless settled =>
      have repair : Recovery s env sit.state (.ok ()) { phase := sit.state.phase } [] := by
        rw [← clear settled]
        exact .needless settled
      exact ⟨_, _, _, .anew idle repair settled attempt⟩
    | mended interrupted down => exact ⟨_, _, _, .anew idle (.mended interrupted down) rfl attempt⟩
    | cut interrupted down => exact ⟨_, _, _, .cut idle (.cut interrupted down)⟩

end ConnectorLifecycle
