import ConnectorLifecycle.Proofs.Calls
import ConnectorLifecycle.Proofs.Conduct
import ConnectorLifecycle.Proofs.PhasePath

/-!
# A connector that is up serves everybody

The clients of a service take turns, so any interleaving of their requests is one sequence. From a
start that succeeded up to the next stop, every turn shows the same connector and calls nobody, and
the service stays as it is. Over a run that nobody disturbed this makes a balance: the connectors
that were brought up are the stops that took one down, and one more while the service runs.
-/

namespace ConnectorLifecycle

variable {F : Type}

/-- What a request other than a stop gets while a connector is up, by its handle and its
properties. -/
def Operation.answer? (handle : Handle) (bag : PropertyBag) : Operation → Option Reply
  | .start | .handle => some (.handle handle)
  | .transport => some (.transport (some handle.transport))
  | .properties => some (.properties bag)
  | .phase => some (.phase .running)
  | .stop => none

/-- Requests that are served from a situation all get what a connector shows, nobody is called, and
the service stays as it is. -/
structure Service.Stands (s : Service F) (handle : Handle) (sit : Situation F)
    (later : List (Request F)) : Prop where
  /-- Nothing changes. -/
  situation : (s.onward sit later).situation = sit
  /-- Each request has its turn. -/
  served : (s.onward sit later).turns.map Turn.request = later
  /-- Each turn shows the connector and calls nobody. -/
  answered : ∀ turn ∈ (s.onward sit later).turns, ∃ reply,
    turn.request.operation.answer? handle sit.state.properties = some reply ∧
      turn.outcome = .ok reply ∧ callsIn turn.journal = []

/-- The number of the connector that a turn brought up: one that was built in the turn, and whose
handle the turn ended with. -/
def Turn.raised? (turn : Turn F) : Option Nat :=
  match turn.outcome with
  | .ok (.handle handle) =>
    if (handle.transport.connector, Deed.built) ∈ turn.request.env.deeds turn.journal then
      some handle.transport.connector
    else none
  | _ => none

/-- Whether a turn stopped a connector that ran: it went all the way from `running` to
`stopped`. -/
def Turn.lands (turn : Turn F) : Bool :=
  turn.outcome = .ok .stopped ∧
    (changesIn turn.journal).map Prod.snd = [(.running, .stopping), (.stopping, .stopped)]

/-- The numbers of the connectors that a run brought up, in order. -/
def Run.raised (run : Run F) : List Nat := run.turns.filterMap Turn.raised?

/-- How often a run stopped a connector that ran. -/
def Run.landings (run : Run F) : Nat := run.turns.countP Turn.lands

/-- A further turn may bring one more connector up. -/
theorem Run.raised_snoc (run : Run F) (sit' : Situation F) (turn : Turn F) :
    (Run.mk sit' (run.turns ++ [turn])).raised = run.raised ++ turn.raised?.toList := by
  rw [Run.raised, List.filterMap_append]
  cases h : turn.raised? <;> simp [Run.raised, h]

/-- A further turn may take one more connector down. -/
theorem Run.landings_snoc (run : Run F) (sit' : Situation F) (turn : Turn F) :
    (Run.mk sit' (run.turns ++ [turn])).landings = run.landings + turn.lands.toNat := by
  rw [Run.landings, List.countP_append, List.countP_singleton]
  cases turn.lands <;> rfl

section Standing

variable {s : Service F} {sit : Situation F} {handle : Handle}

/-- A request other than a stop shows the connector that is up, calls nobody and changes nothing. -/
theorem Service.serve_of_runningHandle {request : Request F}
    (runs : s.runningHandle? sit.state = some handle) (unstopped : request.operation ≠ .stop) :
    ∃ reply j, request.operation.answer? handle sit.state.properties = some reply ∧
      s.serve request sit = (.ok reply, sit, j) ∧ callsIn j = [] := by
  obtain ⟨hp, htransport, _, _⟩ := Service.runningHandle?_eq_some_iff.mp runs
  obtain ⟨operation, env⟩ := request
  cases operation with
  | start =>
    have launch : Launch s env sit _ _ _ := .shown runs
    exact ⟨_, _, rfl, launch.serve_eq, rfl⟩
  | stop => exact absurd rfl unstopped
  | handle =>
    have hhandle : s.handle sit.state = .ok handle := by rw [Service.handle, runs]
    exact ⟨_, [], rfl, by simp [serve, Step.bind_apply, hhandle], rfl⟩
  | transport => exact ⟨_, [], rfl, by simp [serve, Step.bind_apply, htransport], rfl⟩
  | properties => exact ⟨_, [], rfl, rfl, rfl⟩
  | phase => exact ⟨_, [], rfl, by simp [serve, Step.bind_apply, hp], rfl⟩

/-- Requests without a stop all show the connector that is up. -/
theorem Service.stands_of_runningHandle (runs : s.runningHandle? sit.state = some handle)
    {later : List (Request F)} (unstopped : ∀ request ∈ later, request.operation ≠ .stop) :
    s.Stands handle sit later := by
  induction later with
  | nil => exact ⟨rfl, rfl, nofun⟩
  | cons request rest ih =>
    obtain ⟨reply, j, hanswer, hserve, hcalls⟩ :=
      Service.serve_of_runningHandle runs (unstopped request List.mem_cons_self)
    have later := ih fun request hmem => unstopped request (List.mem_cons_of_mem _ hmem)
    constructor
    case situation => rw [s.onward_cons, hserve]; exact later.situation
    case served => exact s.requests_onward sit (request :: rest)
    case answered =>
      rw [s.onward_cons, hserve]
      intro turn hturn
      rcases List.mem_cons.mp hturn with rfl | hturn
      · exact ⟨reply, hanswer, rfl, hcalls⟩
      · exact later.answered turn hturn

end Standing

section Balance

variable {s : Service F} {env : Surroundings F} {e : Ending} {n : Nat} {st st' : State F}
  {sit sit' : Situation F} {handle : Handle} {j : Journal F}

/-- Bringing a connector up that succeeds builds the connector of the handle. -/
theorem Ascent.built_of_ok (h : Ascent s env n (.ok handle) sit j) :
    handle.transport.connector = n ∧ (n, Deed.built) ∈ env.deeds j := by
  cases h with
  | up located built started shown => exact ⟨rfl, by simp⟩
  | lookup _ halt | build _ halt | start _ _ halt | transport _ _ _ halt =>
    exact absurd rfl (halt.ne_ok _)

/-- A start that succeeds brings the next connector up, unless one runs already. -/
theorem Launch.raised?_eq (h : Launch s env sit (.ok handle) sit' j)
    (shape : Shape s e sit.state) :
    Turn.raised? ⟨⟨.start, env⟩, .ok (.handle handle), j⟩ =
      if sit.state.phase = .running then none else some sit.next := by
  by_cases hp : sit.state.phase = .running
  · obtain ⟨_, _, _, rfl⟩ := h.of_running shape hp
    simp [Turn.raised?, hp]
  · cases h with
    | shown runs => exact absurd (Service.runningHandle?_eq_some_iff.mp runs).1 hp
    | anew idle repair ready attempt =>
      cases attempt with
      | up ascent =>
        obtain ⟨hnumber, hbuilt⟩ := ascent.built_of_ok
        simp [Turn.raised?, hp, hnumber, hbuilt]

/-- A stop takes a connector down that ran, if one did. -/
theorem Landing.lands_eq (h : Landing s env st (.ok ()) st' j) :
    Turn.lands ⟨⟨.stop, env⟩, .ok .stopped, j⟩ = st.phase.isRunning := by
  cases h with
  | whole down =>
    have hinner := (changesIn_of_inner down.isInner).1
    unfold Turn.lands Service.leave State.leaving
    cases hp : st.phase <;> simp [hp, hinner, Phase.isRunning]

/-- A turn that does not unwind keeps the balance of connectors that are brought up and taken
down. -/
theorem Served.balance {request : Request F} {o : Outcome Failure Reply}
    (h : Served s sit request o sit' j) (shape : Shape s e sit.state) (goes : o.isAbort = false) :
    (Turn.raised? ⟨request, o, j⟩).toList.length + sit.state.phase.isRunning.toNat =
      (Turn.lands ⟨request, o, j⟩).toNat + sit'.state.phase.isRunning.toNat := by
  cases h with
  | @launched env o sit' j launch =>
    cases o with
    | ok handle =>
      have after : sit'.state.phase = .running := launch.of_ok.1
      have raised := launch.raised?_eq shape
      by_cases hp : sit.state.phase = .running
      · simp [Outcome.map, raised, Turn.lands, hp, after]
      · simp [Outcome.map, raised, Turn.lands, hp, after, Phase.isRunning]
    | error f =>
      have hp : sit.state.phase ≠ .running := fun hp => by
        obtain ⟨_, hok, _⟩ := launch.of_running shape hp
        cases hok
      simp [Outcome.map, Turn.raised?, Turn.lands, launch.of_error.1, hp, Phase.isRunning]
    | abort m => cases goes
  | @landed env o st j landing =>
    rcases landing.ok_or_abort with rfl | ⟨m, rfl⟩
    · obtain rfl := landing.state_of_ok
      have lands := landing.lands_eq
      simp [Outcome.map, Turn.raised?, lands, Phase.isRunning]
    · cases goes
  | looked looks o =>
    have idle : Turn.raised? ⟨request, o, []⟩ = none := by
      unfold Turn.raised?
      split <;> simp
    simp [idle, Turn.lands]

/-- A turn brings up only what was built in it. -/
theorem Turn.built_of_raised {turn : Turn F} (raised : turn.raised? = some n) :
    (n, Deed.built) ∈ turn.request.env.deeds turn.journal := by
  unfold Turn.raised? at raised
  split at raised
  · split at raised
    case isTrue hbuilt =>
      cases raised
      exact hbuilt
    case isFalse => cases raised
  · cases raised

/-- A turn brings up only the next connector. -/
theorem Served.eq_next_of_raised {request : Request F} {o : Outcome Failure Reply}
    (h : Served s sit request o sit' j) (shape : Shape s e sit.state)
    (raised : Turn.raised? ⟨request, o, j⟩ = some n) : n = sit.next := by
  cases h with
  | @launched env o sit' j launch =>
    cases o with
    | ok handle =>
      rw [show Outcome.map Reply.handle (.ok handle) = .ok (.handle handle) from rfl,
        launch.raised?_eq shape] at raised
      split at raised <;> cases raised
      rfl
    | error | abort => cases raised
  | @landed env o st j landing => cases o <;> cases raised
  | looked looks o => cases Turn.built_of_raised raised

end Balance

/-- The account of the connectors that a run brought up and took down. -/
structure Run.Balanced (run : Run F) : Prop where
  /-- Only what was built is brought up. -/
  built : ∀ n ∈ run.raised, (n, Deed.built) ∈ run.deeds
  /-- No connector is brought up twice. -/
  nodup : run.raised.Nodup
  /-- One connector more was brought up than taken down while the service runs, and else none. -/
  total : run.raised.length = run.landings + run.situation.state.phase.isRunning.toNat

/-- Every run that nobody disturbed is balanced. -/
theorem run_balanced (s : Service F) (first : Nat) (requests : List (Request F))
    (undisturbed : (s.run first requests).Undisturbed) : (s.run first requests).Balanced := by
  refine (run_served_induction (motive := fun run =>
    Lives s first run.situation.next run.situation.state.connector run.deeds ∧
      (run.Undisturbed → run.Balanced))
    ⟨.nobody, fun _ => ⟨nofun, List.nodup_nil, rfl⟩⟩ ?_ requests).2 undisturbed
  rintro run request o sit' j shape ⟨lives, kept⟩ served
  refine ⟨Run.deeds_snoc run sit' _ ▸ served.lives lives, fun undisturbed => ?_⟩
  have before := kept undisturbed.of_snoc
  have goes : o.isAbort = false :=
    undisturbed ⟨request, o, j⟩ (List.mem_append_right _ (List.mem_singleton_self _))
  constructor
  case built =>
    rw [Run.deeds_snoc run, Run.raised_snoc run]
    intro n hmem
    rcases List.mem_append.mp hmem with hmem | hmem
    · exact List.mem_append_left _ (before.built n hmem)
    · exact List.mem_append_right _ (Turn.built_of_raised (Option.mem_toList.mp hmem))
  case nodup =>
    rw [Run.raised_snoc run]
    refine List.nodup_append.mpr ⟨before.nodup, by cases Turn.raised? _ <;> simp, ?_⟩
    -- What was brought up before was built before, so its number is not the next one.
    rintro n hn m hm rfl
    have hlt := (lives.built_iff.mp (before.built n hn)).2
    have hnext := served.eq_next_of_raised shape (Option.mem_toList.mp hm)
    omega
  case total =>
    have step := served.balance shape goes
    have total := before.total
    rw [Run.raised_snoc run, Run.landings_snoc run, List.length_append]
    dsimp only
    omega

/-- From a start that succeeded on, and until there is a stop, every request of whatever client
gets the very same handle, transport and properties, nobody is called, whatever the collaborators
would answer, and the service stays `running`. So in a run that nobody disturbed, no connector is
brought up twice, and as many are brought up as stops take one down, with one more exactly while the
service runs; as this is so of every run, it is so at every moment of one. -/
theorem one_start_serves_all (s : Service F) (first : Nat) (requests : List (Request F)) :
    let run := s.run first requests
    (∀ env handle, (s.start env run.situation).1 = .ok handle →
      let begun := (s.start env run.situation).2.1
      handle.service = s.name ∧ handle.kind = s.kind ∧ begun.state.phase = .running ∧
        begun.state.transport = some handle.transport ∧
        ∀ later : List (Request F), (∀ request ∈ later, request.operation ≠ .stop) →
          s.Stands handle begun later) ∧
    (run.Undisturbed → run.raised.Nodup ∧
      run.raised.length =
        run.landings + if run.situation.state.phase = .running then 1 else 0) := by
  intro run
  constructor
  · intro env handle started begun
    obtain ⟨o, sit', j, launch⟩ :=
      exists_launch s env run.situation (run_shape s first requests).eq_clear
    have heval : s.start env run.situation = _ := launch.eval
    obtain rfl : o = .ok handle := by rw [heval] at started; exact started
    have hbegun : begun = sit' := by simp [begun, heval]
    rw [hbegun]
    have runs := launch.of_ok.2
    obtain ⟨hp, htransport, hservice, hkind⟩ := Service.runningHandle?_eq_some_iff.mp runs
    exact ⟨hservice, hkind, hp, htransport,
      fun later unstopped => Service.stands_of_runningHandle runs unstopped⟩
  · intro undisturbed
    have balanced := run_balanced s first requests undisturbed
    refine ⟨balanced.nodup, balanced.total.trans ?_⟩
    by_cases hp : run.situation.state.phase = .running
    · simp [run, hp, Phase.isRunning]
    · simp [run, hp, Phase.isRunning]

/-- Whatever would unwind if it was asked later is not asked, after a run with a start that failed,
one that succeeded and a stop. -/
theorem one_start_serves_all_in_spite_of_unwinding :
    let requests : List (Request String) :=
      [.scripted .start { create := .error ⟨"no memory", []⟩ }, .scripted .start, .scripted .start,
        .scripted .stop]
    let unwinding : Script :=
      { create := .abort "gone", start := .abort "gone", transport := .abort "gone",
        stop := .abort "gone" }
    let handle : Handle := ⟨"web", "web", ⟨2, ⟨some (.v4 ⟨127, 0, 0, 1⟩ 8080), 160⟩⟩⟩
    (Service.specimen.run 1 requests).Undisturbed ∧
    (Service.specimen.run 1 requests).raised = [1] ∧
    (Service.specimen.run 1 requests).raised.Nodup ∧
    (Service.specimen.run 1 requests).landings = 1 ∧
    (Service.specimen.start (Request.scripted .start).env
      (Service.specimen.run 1 requests).situation).1 = .ok handle ∧
    Service.specimen.Stands handle
      (Service.specimen.start (Request.scripted .start).env
        (Service.specimen.run 1 requests).situation).2.1
      [.scripted .start unwinding, .scripted .transport unwinding, .scripted .start unwinding] := by
  intro requests unwinding handle
  have undisturbed : (Service.specimen.run 1 requests).Undisturbed := by
    unfold Run.Undisturbed
    decide +kernel
  have started : (Service.specimen.start (Request.scripted .start).env
      (Service.specimen.run 1 requests).situation).1 = .ok handle := by
    decide +kernel
  obtain ⟨serves, balance⟩ := one_start_serves_all Service.specimen 1 requests
  obtain ⟨_, _, _, _, stands⟩ := serves _ handle started
  have unstopped : ∀ request ∈ [Request.scripted .start unwinding, .scripted .transport unwinding,
      .scripted .start unwinding], request.operation ≠ .stop := by
    simp [Request.scripted]
  exact ⟨undisturbed, by decide +kernel, (balance undisturbed).1, by decide +kernel, started,
    stands _ unstopped⟩

end ConnectorLifecycle
