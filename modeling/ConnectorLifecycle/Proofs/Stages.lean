import ConnectorLifecycle.Proofs.Calls
import ConnectorLifecycle.Proofs.Calm
import ConnectorLifecycle.Proofs.Conduct
import ConnectorLifecycle.Proofs.Renewal

/-!
# The stages of a start

A start that finds nothing to repair goes through stages, each with its own calls and its own
failure, and ends with the failure of the first stage that is refused. This description knows
nothing of the state on the way: whether properties were set, a connector held or started when the
start ended is no part of it. `GoesByStages` says that outcome, calls and final state of a start are
those of its stages. What a stage had built is handed back, and nothing is left behind.
-/

namespace ConnectorLifecycle

variable {F : Type}

/-- A stage of a start. -/
inductive Stage where
  /-- The binding is looked up. -/
  | resolve
  /-- The properties have to say where to listen. -/
  | validate
  /-- The factory is asked for a connector. -/
  | build
  /-- The connector is started. -/
  | start
  /-- The connector is asked for its transport. -/
  | transport
  deriving DecidableEq, Repr

namespace Service

variable (s : Service F) (env : Surroundings F) (n : Nat)

/-- The stages of a start in order; a binding is looked up only if the settings name one. -/
def stages : List Stage :=
  (if s.settings.socketBinding.isSome then [.resolve] else []) ++
    [.validate, .build, .start, .transport]

/-- The address of the binding that the settings name, if it has one. -/
def address? : Option SocketAddress :=
  match s.settings.socketBinding.map env.resolve with
  | some (.ok address) => some address
  | _ => none

/-- The failure with which a stage is refused, for a connector of a number. -/
def refusal? : Stage → Option Failure
  | .resolve =>
    s.settings.socketBinding.bind fun binding =>
      (env.resolve binding).cause?.map (.unresolved s.name)
  | .validate =>
    if (s.settings.connectorProperties (s.address? env)).definesConnector then none
    else some (.noListener s.name)
  | .build => (env.create s.factory).cause?.map (.notBuilt s.name)
  | .start =>
    (env.start (s.connector n) (s.settings.properties (s.address? env)) s.manager).cause?.map
      (.notStarted s.name)
  | .transport =>
    (env.transport (s.connector n) (s.settings.properties (s.address? env))).cause?.map
      (.noTransport s.name)

/-- The texts of the error that a stage's collaborator answers with, the outermost first. -/
def complaint : Stage → List String
  | .resolve =>
    s.settings.socketBinding.elim [] fun binding =>
      (env.resolve binding).cause?.elim [] fun cause => [cause.message]
  | .validate => []
  | .build => (env.create s.factory).cause?.elim [] CauseChain.texts
  | .start =>
    (env.start (s.connector n) (s.settings.properties (s.address? env)) s.manager).cause?.elim []
      CauseChain.texts
  | .transport =>
    (env.transport (s.connector n) (s.settings.properties (s.address? env))).cause?.elim []
      CauseChain.texts

/-- The calls of a stage. -/
def stageCalls : Stage → List (Call F)
  | .resolve => s.settings.socketBinding.toList.map .resolve
  | .validate => []
  | .build => [.create s.factory (if (env.create s.factory).isOk then some n else none)]
  | .start => [.start (s.connector n) (s.settings.properties (s.address? env)) s.manager]
  | .transport => [.transport (s.connector n)]

/-- A stage is the first that is refused, after those that passed. -/
structure StopsAt (before : List Stage) (stage : Stage) (f : Failure) : Prop where
  /-- It is one of the stages, with just these before it. -/
  order : ∃ after, s.stages = before ++ stage :: after
  /-- Those before it passed. -/
  passed : ∀ earlier ∈ before, s.refusal? env n earlier = none
  /-- It is refused. -/
  refused : s.refusal? env n stage = some f

/-- An outcome, a situation and calls are those of the stages of a start. -/
structure GoesByStages (o : Outcome Failure Handle) (sit : Situation F) (calls : List (Call F)) :
    Prop where
  /-- The start ends with a value or a failure. -/
  returns : o.isAbort = false
  /-- It succeeds exactly if every stage passes. -/
  succeeds_iff : (∃ handle, o = .ok handle) ↔ ∀ stage ∈ s.stages, s.refusal? env n stage = none
  /-- It fails exactly with the failure of the first stage that is refused. -/
  fails_iff : ∀ f, o = .error f ↔ ∃ before stage, s.StopsAt env n before stage f
  /-- It fails for want of a listener exactly if the settings name no binding. -/
  unbound_iff : (∃ service, o = .error (.noListener service)) ↔ s.settings.socketBinding = none
  /-- After a success the connector is up at its address, and every stage made its calls. -/
  up : ∀ handle, o = .ok handle → ∃ address view, s.address? env = some address ∧
    env.transport (s.connector n) (s.bag address) = .ok view ∧ handle = s.handleOf ⟨n, view⟩ ∧
    sit = ⟨s.laden .running (some (s.connector n)) (some ⟨n, view⟩) address, n + 1⟩ ∧
    calls = s.stages.flatMap (s.stageCalls env n)
  /-- A failure names the service and keeps the causes; the stages up to the refused one made their
  calls, a connector that was built before is stopped, and nothing is left but the phase. -/
  down : ∀ before stage f, s.StopsAt env n before stage f →
    f.service? = some s.name ∧ f.causes = s.complaint env n stage ∧
    calls = (before ++ [stage]).flatMap (s.stageCalls env n) ++
      (if .build ∈ before then [.stop (s.connector n)] else []) ∧
    sit.state = { phase := .failed }

end Service

variable {s : Service F} {env : Surroundings F} {n : Nat} {f : Failure}

/-- An answer that ends an attempt with a failure has a cause that brings it about. -/
theorem Outcome.Halts.map_cause? {ε α β : Type} {failure : ε → Failure} {answer : Outcome ε α}
    (h : answer.Halts failure (.error f : Outcome Failure β)) :
    answer.cause?.map failure = some f := by
  cases h
  rfl

namespace Service

/-- The properties say where to listen if an address was found, and only then. -/
theorem refusal?_validate :
    s.refusal? env n .validate =
      if (s.address? env).isSome then none else some (.noListener s.name) := by
  rw [refusal?, s.settings.definesConnector_connectorProperties]

/-- A failure of a stage names the service and keeps the texts of the collaborator's error. -/
theorem blame_of_refusal? {stage : Stage} (h : s.refusal? env n stage = some f) :
    f.service? = some s.name ∧ f.causes = s.complaint env n stage := by
  cases stage with
  | resolve =>
    obtain ⟨binding, named, hf⟩ := Option.bind_eq_some_iff.mp h
    obtain ⟨cause, answer, rfl⟩ := Option.map_eq_some_iff.mp hf
    simp [complaint, named, answer, Failure.service?, Failure.causes]
  | validate =>
    rw [refusal?_validate] at h
    split at h <;> cases h
    exact ⟨rfl, rfl⟩
  | build | start | transport =>
    obtain ⟨cause, answer, rfl⟩ := Option.map_eq_some_iff.mp h
    simp [complaint, answer, Failure.service?, Failure.causes]

/-- Without a binding there is nothing to look up. -/
theorem stages_of_unnamed (unnamed : s.settings.socketBinding = none) :
    s.stages = [.validate, .build, .start, .transport] := by
  simp [stages, unnamed]

/-- With a binding, looking it up comes first. -/
theorem stages_of_named {binding : String} (named : s.settings.socketBinding = some binding) :
    s.stages = [.resolve, .validate, .build, .start, .transport] := by
  simp [stages, named]

/-- A stage that is refused is not among stages that pass. -/
theorem StopsAt.not_mem {before stages : List Stage} {stage : Stage}
    (h : s.StopsAt env n before stage f)
    (passed : ∀ stage ∈ stages, s.refusal? env n stage = none) : stage ∉ stages := by
  intro hmem
  have refused := h.refused
  rw [passed stage hmem] at refused
  cases refused

/-- Only one stage is the first that is refused. -/
theorem StopsAt.unique {before before' : List Stage} {stage stage' : Stage} {f' : Failure}
    (h : s.StopsAt env n before stage f) (h' : s.StopsAt env n before' stage' f') :
    before = before' ∧ stage = stage' ∧ f = f' := by
  obtain ⟨after, horder⟩ := h.order
  obtain ⟨after', horder'⟩ := h'.order
  have hsplit : before ++ stage :: after = before' ++ stage' :: after' := horder.symm.trans horder'
  rcases place_in_append hsplit with ⟨rest, hrest⟩ | ⟨rest, rfl, hrest⟩
  · exact absurd (hrest ▸ by simp) (h'.not_mem h.passed)
  · cases rest with
    | nil =>
      obtain ⟨rfl, -⟩ := List.cons.inj hrest
      have hf : some f = some f' := h.refused.symm.trans h'.refused
      exact ⟨by simp, rfl, Option.some.inj hf⟩
    | cons first rest =>
      obtain ⟨rfl, -⟩ := List.cons.inj hrest
      exact absurd (by simp) (h.not_mem h'.passed)

/-- If a stage is refused, not all of them pass. -/
theorem StopsAt.not_passed {before : List Stage} {stage : Stage}
    (h : s.StopsAt env n before stage f) :
    ¬ ∀ stage ∈ s.stages, s.refusal? env n stage = none := by
  intro passed
  obtain ⟨after, horder⟩ := h.order
  have hmem : stage ∈ s.stages := horder ▸ List.mem_append_right _ List.mem_cons_self
  exact h.not_mem passed hmem

/-- Only the settings without a binding leave a start without an address. -/
theorem socketBinding_of_address? {address : SocketAddress} (h : s.address? env = some address) :
    s.settings.socketBinding ≠ none := by
  intro unnamed
  rw [address?, unnamed] at h
  cases h

namespace Located

variable {binding : String} {address : SocketAddress} (located : s.Located env binding address)
include located

/-- The address of a binding is the one that a start goes by. -/
theorem address?_eq : s.address? env = some address := by
  simp [address?, located.named, located.found]

/-- The connector is started with the properties of the address. -/
theorem refusal?_start : s.refusal? env n .start =
    (env.start (s.connector n) (s.bag address) s.manager).cause?.map (.notStarted s.name) := by
  rw [refusal?, located.address?_eq]
  rfl

/-- The transport is that of a connector with the properties of the address. -/
theorem refusal?_transport : s.refusal? env n .transport =
    (env.transport (s.connector n) (s.bag address)).cause?.map (.noTransport s.name) := by
  rw [refusal?, located.address?_eq]
  rfl

/-- With an address there is a place to listen. -/
theorem passed_validate : ∀ stage ∈ [Stage.resolve, .validate], s.refusal? env n stage = none := by
  have resolved : s.refusal? env n .resolve = none := by
    simp [refusal?, located.named, located.found, Outcome.cause?]
  have valid : s.refusal? env n .validate = none := by
    rw [refusal?_validate, located.address?_eq]
    rfl
  simp [resolved, valid]

/-- A factory that builds is passed. -/
theorem passed_build (built : env.create s.factory = .ok ()) :
    ∀ stage ∈ [Stage.resolve, .validate, .build], s.refusal? env n stage = none := by
  have passed : s.refusal? env n .build = none := by
    rw [refusal?, built]
    rfl
  simpa [passed] using located.passed_validate

/-- A connector that starts is passed. -/
theorem passed_start (built : env.create s.factory = .ok ())
    (started : env.start (s.connector n) (s.bag address) s.manager = .ok ()) :
    ∀ stage ∈ [Stage.resolve, .validate, .build, .start], s.refusal? env n stage = none := by
  have passed : s.refusal? env n .start = none := by
    rw [located.refusal?_start, started]
    rfl
  simpa [passed] using located.passed_build built

/-- A connector that shows its transport has passed all stages. -/
theorem passed_transport {view : TransportView} (built : env.create s.factory = .ok ())
    (started : env.start (s.connector n) (s.bag address) s.manager = .ok ())
    (shown : env.transport (s.connector n) (s.bag address) = .ok view) :
    ∀ stage ∈ s.stages, s.refusal? env n stage = none := by
  have passed : s.refusal? env n .transport = none := by
    rw [located.refusal?_transport, shown]
    rfl
  rw [stages_of_named located.named]
  simpa [passed] using located.passed_start built started

/-- Until its connector has answered the start, an attempt makes the calls of the first stages. -/
theorem callsIn_buildUp (built : env.create s.factory = .ok ()) :
    callsIn (s.buildUp n binding address) =
      [Stage.resolve, .validate, .build, .start].flatMap (s.stageCalls env n) := by
  simp [buildUp, stageCalls, bag, located.named, located.address?_eq, built, Outcome.isOk]

/-- A connector that started is asked for its transport, and then every stage made its calls. -/
theorem callsIn_allStages (built : env.create s.factory = .ok ()) :
    callsIn (s.buildUp n binding address ++ [.call (.transport (s.connector n))]) =
      [Stage.resolve, .validate, .build, .start, .transport].flatMap (s.stageCalls env n) := by
  rw [callsIn_append, located.callsIn_buildUp built,
    show [Stage.resolve, .validate, .build, .start, .transport] =
      [.resolve, .validate, .build, .start] ++ [.transport] from rfl, List.flatMap_append]
  rfl

end Located

end Service

variable {o : Outcome Failure Handle} {sit : Situation F} {j : Journal F}

/-- Bringing a connector up that fails stops at a stage, with the calls up to there; a connector is
held exactly if the factory was passed. -/
theorem Ascent.stopsAt (h : Ascent s env n (.error f) sit j) :
    ∃ before stage, s.StopsAt env n before stage f ∧
      callsIn j = (before ++ [stage]).flatMap (s.stageCalls env n) ∧
      sit.state.connector = if .build ∈ before then some (s.connector n) else none := by
  cases h with
  | unbound unnamed =>
    have refused : s.refusal? env n .validate = some (.noListener s.name) := by
      simp [Service.refusal?_validate, Service.address?, unnamed]
    exact ⟨[], .validate, ⟨⟨_, Service.stages_of_unnamed unnamed⟩, by simp, refused⟩, rfl, rfl⟩
  | lookup named halt =>
    have refused : s.refusal? env n .resolve = some f := by
      simp [Service.refusal?, named, halt.map_cause?]
    refine ⟨[], .resolve, ⟨⟨_, Service.stages_of_named named⟩, by simp, refused⟩, ?_, rfl⟩
    simp [Service.stageCalls, named]
  | build located halt =>
    refine ⟨[.resolve, .validate], .build, ⟨⟨_, Service.stages_of_named located.named⟩,
      located.passed_validate, halt.map_cause?⟩, ?_, rfl⟩
    simp [Service.stageCalls, located.named, halt.isOk_eq_false]
  | start located built halt =>
    have refused : s.refusal? env n .start = some f := by
      rw [located.refusal?_start, halt.map_cause?]
    exact ⟨[.resolve, .validate, .build], .start, ⟨⟨_, Service.stages_of_named located.named⟩,
      located.passed_build built, refused⟩, located.callsIn_buildUp built, rfl⟩
  | transport located built started halt =>
    have refused : s.refusal? env n .transport = some f := by
      rw [located.refusal?_transport, halt.map_cause?]
    exact ⟨[.resolve, .validate, .build, .start], .transport,
      ⟨⟨_, Service.stages_of_named located.named⟩, located.passed_start built started, refused⟩,
      located.callsIn_allStages built, rfl⟩

/-- Bringing a connector up fails for want of a listener exactly if the settings name no binding. -/
theorem Ascent.unbound_iff (h : Ascent s env n (.error f) sit j) :
    (∃ service, f = .noListener service) ↔ s.settings.socketBinding = none := by
  cases h with
  | unbound unnamed => exact iff_of_true ⟨_, rfl⟩ unnamed
  | lookup named halt =>
    obtain ⟨cause, rfl⟩ := halt.exists_failure
    exact iff_of_false nofun (by simp [named])
  | build located halt | start located _ halt | transport located _ _ halt =>
    obtain ⟨cause, rfl⟩ := halt.exists_failure
    exact iff_of_false nofun (by simp [located.named])

/-- Bringing a connector up that succeeds passes all stages, with all their calls. -/
theorem Ascent.passed {handle : Handle} (h : Ascent s env n (.ok handle) sit j) :
    (∀ stage ∈ s.stages, s.refusal? env n stage = none) ∧
      callsIn j = s.stages.flatMap (s.stageCalls env n) ∧
      ∃ address view, s.address? env = some address ∧
        env.transport (s.connector n) (s.bag address) = .ok view ∧ handle = s.handleOf ⟨n, view⟩ ∧
        sit = ⟨s.laden .starting (some (s.connector n)) (some ⟨n, view⟩) address, n + 1⟩ := by
  cases h with
  | up located built started shown =>
    refine ⟨located.passed_transport built started shown, ?_, _, _, located.address?_eq, shown,
      rfl, rfl⟩
    rw [Service.stages_of_named located.named]
    exact located.callsIn_allStages built
  | lookup _ halt | build _ halt | start _ _ halt | transport _ _ _ halt =>
    exact absurd rfl (halt.ne_ok _)

/-- A new attempt among calm collaborators goes by its stages. -/
theorem Attempt.goesByStages (h : Attempt s env n o sit j) (calm : env.Calm) :
    s.GoesByStages env n o sit (callsIn j) := by
  cases h with
  | up ascent =>
    obtain ⟨passed, hcalls, address, view, located, shown, rfl, rfl⟩ := ascent.passed
    constructor
    case returns => rfl
    case succeeds_iff => exact iff_of_true ⟨_, rfl⟩ passed
    case fails_iff => exact fun f => iff_of_false nofun fun ⟨_, _, stops⟩ => stops.not_passed passed
    case unbound_iff => exact iff_of_false nofun (Service.socketBinding_of_address? located)
    case up =>
      rintro _ ⟨⟩
      refine ⟨address, view, located, shown, rfl, rfl, ?_⟩
      simp [hcalls]
    case down => exact fun _ _ _ stops => absurd passed stops.not_passed
  | @failed f sit _ _ _ ascent down =>
    obtain ⟨before, stage, stops, hcalls, held⟩ := ascent.stopsAt
    constructor
    case returns => rfl
    case succeeds_iff => exact iff_of_false nofun stops.not_passed
    case fails_iff =>
      intro f'
      constructor
      · rintro ⟨⟩
        exact ⟨before, stage, stops⟩
      · rintro ⟨_, _, stops'⟩
        obtain ⟨_, _, rfl⟩ := stops.unique stops'
        rfl
    case unbound_iff => simpa using ascent.unbound_iff
    case up => exact nofun
    case down =>
      intro before' stage' f' stops'
      obtain ⟨rfl, rfl, rfl⟩ := stops.unique stops'
      obtain ⟨hservice, hcauses⟩ := Service.blame_of_refusal? stops.refused
      refine ⟨hservice, hcauses, ?_, rfl⟩
      have hstop : sit.state.connector.toList.map Call.stop =
          if .build ∈ before then [.stop (s.connector n)] else [] := by
        rw [held]
        split <;> rfl
      simp [hcalls, down.callsIn_eq, hstop]
  | cut ascent => exact absurd (ascent.isAbort_of_calm calm) (by simp [Outcome.isAbort])
  | cutDown ascent down =>
    have := down.isAbort_eq_false_iff.mpr (calm.stopsHeld _)
    cases this

/-- A start from a phase that leaves nothing to repair goes by its stages, if nobody unwinds. -/
theorem Shape.goesByStages {e : Ending} (h : Shape s e sit.state)
    (ready : sit.state.phase.canStart = true) (calm : env.Calm) :
    s.GoesByStages env sit.next (s.start env sit).1 (s.start env sit).2.1
      (callsIn (s.start env sit).2.2) := by
  have idle : sit.state.phase ≠ .running := by
    rintro hp
    rw [hp] at ready
    cases ready
  have unrepaired : s.repairs env sit.state = [] := by simp [Service.repairs, ready]
  obtain ⟨o, sit', j, attempt⟩ := exists_attempt s env sit.next
  rw [h.launch_of_attempt idle (calm.stopsHeld _) attempt, unrepaired]
  exact attempt.goesByStages calm

/-- A start that finds nothing to repair goes by its stages. Among collaborators that answer, it
ends with a handle if every stage passes, and else with the failure of the first stage that is
refused, for want of a listener exactly if the settings name no binding. The failure names the
service and keeps the causes; the calls are those of the stages up to the refused one, followed by a
stop exactly if a connector was built before; and nothing is left behind but the phase. -/
theorem start_goes_by_stages (s : Service F) (first : Nat) (requests : List (Request F))
    (env : Surroundings F) (calm : env.Calm)
    (ready : (s.run first requests).situation.state.phase = .created ∨
      (s.run first requests).situation.state.phase = .stopped ∨
      (s.run first requests).situation.state.phase = .failed) :
    let sit := (s.run first requests).situation
    let result := s.start env sit
    s.GoesByStages env sit.next result.1 result.2.1 (callsIn result.2.2) := by
  refine (run_shape s first requests).goesByStages ?_ calm
  rcases ready with hp | hp | hp <;> rw [hp] <;> rfl

/-- After a start that failed, a connector that does not start either is stopped, although it
answers that with an error too. -/
theorem start_goes_by_stages_twice_refused :
    let run := Service.specimen.run 1 [.scripted .start { transport := .error ⟨"no socket", []⟩ }]
    let env : Surroundings String :=
      { Surroundings.building fun _ => true with
        start := fun _ _ _ => .error ⟨"not started", ["port in use"]⟩
        stop := fun _ => .error ⟨"never started", []⟩ }
    let result := Service.specimen.start env run.situation
    env.Calm ∧ run.situation = ⟨{ phase := .failed }, 2⟩ ∧
    Service.specimen.StopsAt env 2 [.resolve, .validate, .build] .start
      (.notStarted "web" ⟨"not started", ["port in use"]⟩) ∧
    Service.specimen.GoesByStages env run.situation.next result.1 result.2.1
      (callsIn result.2.2) := by
  intro run env result
  have calm : env.Calm :=
    { Surroundings.calm_building fun _ => true with
      start := fun _ _ _ => rfl
      stop := fun _ => rfl }
  have failed : run.situation = ⟨{ phase := .failed }, 2⟩ := by decide +kernel
  have ready : run.situation.state.phase = .failed := by rw [failed]
  have goes := start_goes_by_stages Service.specimen 1 _ env calm (.inr (.inr ready))
  exact ⟨calm, failed, ⟨⟨[.transport], by decide⟩, by decide +kernel, by decide +kernel⟩, goes⟩

end ConnectorLifecycle
