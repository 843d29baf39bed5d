import ConnectorLifecycle.Group
import ConnectorLifecycle.Proofs.Run

/-!
# What a service says names it

Every notice that a step of a service reports names the service, and so does every failure that a
step ends with. `Step.Signed` says this of a step and is kept by putting steps together, so the
proof for each operation goes along its definition.
-/

namespace ConnectorLifecycle

variable {F α β : Type}

/-- The service that a notice names, if it is about one. -/
def Notice.service? : Notice → Option String
  | endpoint logger _ => some logger.service
  | changed s _ _ | unexpectedChange s _ _ | alreadyRunning s | recovering s _ => some s
  | droppedWhileHolding s | memberFailed s _ => some s
  | registered _ | registeredAgain _ | groupBuilt _ | groupStarted _ _ => none
  | skippedOther _ | skippedUnreadable _ | skippedUndecodable _ => none

/-- Whatever a step reports names a service, and so does the failure that it may end with. -/
structure Step.Signed (name : String) (step : Step F α) : Prop where
  /-- Every report names the service. -/
  reports : ∀ sit notice, .notice notice ∈ (step sit).2.2 → notice.service? = some name
  /-- A failure names the service. -/
  failure : ∀ sit f, (step sit).1 = .error f → f.service? = some name

namespace Step

variable {name : String}

theorem signed_pure (a : α) : Signed name (pure a : Step F α) where
  reports _ _ := nofun
  failure _ _ := nofun

theorem signed_state : Signed name (state : Step F (State F)) where
  reports _ _ := nofun
  failure _ _ := nofun

theorem signed_modify (change : State F → State F) : Signed name (modify change) where
  reports _ _ := nofun
  failure _ _ := nofun

theorem signed_insist (holds : Bool) (condition : String) :
    Signed name (insist holds condition : Step F Unit) where
  reports _ _ := by cases holds <;> nofun
  failure _ _ := by cases holds <;> nofun

theorem signed_report {notice : Notice} (h : notice.service? = some name) :
    Signed name (report notice : Step F Unit) where
  reports _ notice' hmem := by
    cases List.mem_singleton.mp hmem
    exact h
  failure _ _ := nofun

theorem signed_fail {f : Failure} (h : f.service? = some name) :
    Signed name (fail f : Step F α) where
  reports _ _ := nofun
  failure _ f' hf := by
    cases hf
    exact h

theorem signed_ask {ε : Type} (call : Call F) (answer : Outcome ε α) :
    Signed name (ask call answer) where
  reports _ _ hmem := by cases answer <;> cases List.mem_singleton.mp hmem
  failure _ _ := by cases answer <;> nofun

theorem signed_create (env : Surroundings F) (factory : F) : Signed name (create env factory) where
  reports _ _ hmem := by
    unfold create at hmem
    split at hmem <;> cases List.mem_singleton.mp hmem
  failure _ _ hf := by
    unfold create at hf
    split at hf <;> cases hf

/-- A required result is signed if the failure made of its error is. -/
theorem signed_require {ε : Type} {failure : ε → Failure} {result : Except ε α}
    (h : ∀ e, result = .error e → (failure e).service? = some name) :
    Signed name (require failure result : Step F α) := by
  cases result with
  | ok a => exact signed_pure a
  | error e => exact signed_fail (h e rfl)

/-- A signed step with a signed rest is signed. -/
theorem Signed.bind {step : Step F α} {rest : α → Step F β} (h : Signed name step)
    (h' : ∀ a, Signed name (rest a)) : Signed name (step >>= rest) := by
  constructor
  case reports =>
    intro sit notice hmem
    have first := h.reports sit notice
    rw [bind_apply] at hmem
    generalize step sit = result at hmem first
    obtain ⟨outcome, sit', journal⟩ := result
    cases outcome with
    | ok a =>
      rcases List.mem_append.mp hmem with hmem | hmem
      · exact first hmem
      · exact (h' a).reports sit' notice hmem
    | error | abort => exact first hmem
  case failure =>
    intro sit f hf
    have first := h.failure sit f
    rw [bind_apply] at hf
    generalize step sit = result at hf first
    obtain ⟨outcome, sit', journal⟩ := result
    cases outcome with
    | ok a => exact (h' a).failure sit' f hf
    | error g =>
      cases hf
      exact first rfl
    | abort => cases hf

/-- An attempted step gives its rest a value, or a failure that names the service. -/
theorem Signed.attempt_bind {step : Step F α} {rest : Except Failure α → Step F β}
    (h : Signed name step) (ok : ∀ a, Signed name (rest (.ok a)))
    (error : ∀ f, f.service? = some name → Signed name (rest (.error f))) :
    Signed name (attempt step >>= rest) := by
  constructor
  case reports =>
    intro sit notice hmem
    have first := h.reports sit notice
    have failed := h.failure sit
    rw [bind_apply, attempt_apply] at hmem
    generalize step sit = result at hmem first failed
    obtain ⟨outcome, sit', journal⟩ := result
    cases outcome with
    | ok a =>
      rcases List.mem_append.mp hmem with hmem | hmem
      · exact first hmem
      · exact (ok a).reports sit' notice hmem
    | error f =>
      rcases List.mem_append.mp hmem with hmem | hmem
      · exact first hmem
      · exact (error f (failed f rfl)).reports sit' notice hmem
    | abort => exact first hmem
  case failure =>
    intro sit f hf
    have failed := h.failure sit
    rw [bind_apply, attempt_apply] at hf
    generalize step sit = result at hf failed
    obtain ⟨outcome, sit', journal⟩ := result
    cases outcome with
    | ok a => exact (ok a).failure sit' f hf
    | error g => exact (error g (failed g rfl)).failure sit' f hf
    | abort => cases hf

end Step

section Operations

open Step

namespace Service

variable (s : Service F) (env : Surroundings F)

/-- A change of phase names the service. -/
theorem signed_changePhase (phase : Phase) : Signed s.name (s.changePhase phase) := by
  unfold changePhase
  refine Signed.bind signed_state fun st => ?_
  have changed : Signed s.name (do
      report (.changed s.name st.phase phase)
      modify fun st => { st with phase } : Step F Unit) :=
    Signed.bind (signed_report rfl) fun _ => signed_modify _
  dsimp only
  split
  · exact changed
  · exact Signed.bind (signed_report rfl) fun _ => changed

/-- The look-up of a binding fails in the name of the service. -/
theorem signed_resolveBinding : Signed s.name (s.resolveBinding env) := by
  unfold resolveBinding
  split
  · exact signed_pure none
  · refine Signed.bind (signed_ask _ _) fun answer => ?_
    exact Signed.bind (signed_require fun _ _ => rfl) fun _ => signed_pure _

/-- A connector that does not start, or shows no transport, is a failure of the service. -/
theorem signed_startConnector (connector : Instance F) (bag : PropertyBag) :
    Signed s.name (s.startConnector env connector bag) := by
  unfold startConnector
  refine Signed.bind (signed_ask _ _) fun answer => ?_
  refine Signed.bind (signed_require fun _ _ => rfl) fun _ => ?_
  refine Signed.bind (signed_ask _ _) fun view => ?_
  refine Signed.bind (signed_require fun _ _ => rfl) fun _ => ?_
  exact Signed.bind (signed_modify _) fun _ => signed_pure _

/-- The insistence on empty bags reports nothing and does not fail. -/
theorem signed_insistEmptyBags {name : String} :
    Signed name (insistEmptyBags : Step F Unit) := by
  unfold insistEmptyBags
  refine Signed.bind signed_state fun st => ?_
  refine Signed.bind (signed_insist _ _) fun _ => ?_
  exact Signed.bind signed_state fun st' => signed_insist _ _

end Service

variable {s : Service F} (logged : s.logger.service = s.name) (env : Surroundings F)
include logged

namespace Service

/-- What goes through the logger of a service names the service that the logger names. -/
theorem signed_reportEvent (event : EndpointEvent) : Signed s.name (s.reportEvent event) :=
  signed_report (congrArg some logged)

/-- Stopping a connector names the service. -/
theorem signed_stopConnector (connector : Instance F) :
    Signed s.name (s.stopConnector env connector) := by
  unfold stopConnector
  refine Signed.bind (signed_modify _) fun _ => ?_
  refine Signed.bind (signed_reportEvent logged _) fun _ => ?_
  refine Signed.bind (signed_ask _ _) fun answer => ?_
  cases answer with
  | ok => exact Signed.bind (signed_pure ()) fun _ => signed_reportEvent logged _
  | error cause =>
    exact Signed.bind (signed_reportEvent logged _) fun _ => signed_reportEvent logged _

/-- A teardown names the service. -/
theorem signed_teardown : Signed s.name (s.teardown env) := by
  unfold teardown
  refine Signed.bind signed_state fun st => ?_
  cases st.connector with
  | none => exact signed_modify _
  | some connector =>
    exact Signed.bind (signed_stopConnector logged env connector) fun _ => signed_modify _

/-- A connector that is not built, or does not come up, is a failure of the service. -/
theorem signed_bringUpConnector : Signed s.name (s.bringUpConnector env) := by
  unfold bringUpConnector
  refine Signed.bind signed_state fun st => ?_
  refine Signed.bind (signed_create env _) fun built => ?_
  refine Signed.bind (signed_require fun _ _ => rfl) fun connector => ?_
  refine Signed.bind (signed_reportEvent logged _) fun _ => ?_
  exact Signed.bind (signed_modify _) fun _ => s.signed_startConnector env connector _

/-- Bringing a connector up names the service. -/
theorem signed_bringUp : Signed s.name (s.bringUp env) := by
  unfold bringUp
  refine Signed.bind (s.signed_resolveBinding env) fun binding => ?_
  refine Signed.bind (signed_modify _) fun _ => ?_
  split
  · exact signed_bringUpConnector logged env
  · exact signed_fail rfl

/-- A repair names the service. -/
theorem signed_recover : Signed s.name (s.recover env) := by
  unfold recover
  refine Signed.bind signed_state fun st => ?_
  dsimp only
  split
  · exact signed_pure ()
  · refine Signed.bind (signed_report rfl) fun _ => ?_
    exact Signed.bind (signed_teardown logged env) fun _ => signed_modify _

/-- A new attempt names the service. -/
theorem signed_startAnew : Signed s.name (s.startAnew env) := by
  unfold startAnew
  refine Signed.bind (s.signed_changePhase _) fun _ => ?_
  refine Signed.bind (signed_reportEvent logged _) fun _ => ?_
  refine Signed.attempt_bind (signed_bringUp logged env) (fun handle => ?_) fun f named => ?_
  · refine Signed.bind (s.signed_changePhase _) fun _ => ?_
    exact Signed.bind (signed_reportEvent logged _) fun _ => signed_pure _
  · refine Signed.bind (signed_reportEvent logged _) fun _ => ?_
    refine Signed.bind (signed_teardown logged env) fun _ => ?_
    exact Signed.bind (s.signed_changePhase _) fun _ => signed_fail named

/-- A start names the service. -/
theorem signed_start : Signed s.name (s.start env) := by
  unfold start
  refine Signed.bind signed_state fun st => ?_
  cases s.runningHandle? st with
  | some handle => exact Signed.bind (signed_report rfl) fun _ => signed_pure _
  | none =>
    refine Signed.bind (signed_recover logged env) fun _ => ?_
    exact Signed.bind signed_insistEmptyBags fun _ => signed_startAnew logged env

/-- A stop names the service. -/
theorem signed_stop : Signed s.name (s.stop env) := by
  unfold stop
  refine Signed.bind signed_state fun st => ?_
  have landed : Signed s.name (do s.teardown env; s.changePhase .stopped) :=
    Signed.bind (signed_teardown logged env) fun _ => s.signed_changePhase _
  dsimp only
  split
  · exact Signed.bind (s.signed_changePhase _) fun _ => landed
  · exact landed

/-- Giving a service up names it. -/
theorem signed_drop : Signed s.name (s.drop env) := by
  unfold drop
  refine Signed.bind signed_state fun st => ?_
  cases st.connector with
  | none => exact signed_pure ()
  | some => exact Signed.bind (signed_report rfl) fun _ => signed_stop logged env

/-- However a request is served, it names the service. -/
theorem signed_serve (request : Request F) : Signed s.name (s.serve request) := by
  unfold serve
  split
  case h_1 => exact Signed.bind (signed_start logged _) fun _ => signed_pure _
  case h_2 => exact Signed.bind (signed_stop logged _) fun _ => signed_pure _
  case h_3 =>
    refine Signed.bind signed_state fun st => ?_
    refine Signed.bind (signed_require fun f refused => ?_) fun _ => signed_pure _
    unfold Service.handle at refused
    split at refused <;> cases refused
    rfl
  all_goals exact Signed.bind signed_state fun _ => signed_pure _

end Service

/-- A start in a group names the service. -/
theorem Group.signed_startMember : Signed s.name (Group.startMember env s) := by
  unfold Group.startMember
  refine Signed.attempt_bind (Service.signed_start logged env) (fun _ => signed_pure _) ?_
  intro f named
  exact Signed.bind (signed_report rfl) fun _ => signed_fail named

/-- Whatever a service reports or fails with names it, in each of the steps that are made of it. -/
structure Service.Signs (s : Service F) : Prop where
  /-- When it is asked something. -/
  serve : ∀ request, Signed s.name (s.serve request)
  /-- When it is started with its group. -/
  start : ∀ env, Signed s.name (Group.startMember env s)
  /-- When it is stopped. -/
  stop : ∀ env, Signed s.name (s.stop env)
  /-- When it is given up. -/
  drop : ∀ env, Signed s.name (s.drop env)

/-- A service whose logger names it signs whatever it says. -/
theorem Service.signs : s.Signs where
  serve := signed_serve logged
  start := Group.signed_startMember logged
  stop := signed_stop logged
  drop := signed_drop logged

end Operations

end ConnectorLifecycle
