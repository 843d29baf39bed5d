import ConnectorLifecycle.Proofs.Launch
import ConnectorLifecycle.Rehearsal

/-!
# Requests and runs

The clients of a service share it behind one lock, so whatever they do together is one sequence of
requests, each served as a whole. A request comes with all that the collaborators would answer while
it is served; a statement about every run is about all these answers. A request that unwinds leaves
behind what it had changed, and the next one is served from there.
-/

namespace ConnectorLifecycle

variable {F : Type}

/-- What a client can ask of a service. -/
inductive Operation where
  /-- Start the connector. -/
  | start
  /-- Stop the connector. -/
  | stop
  /-- Get the handle of the running connector. -/
  | handle
  /-- Get the transport of the running connector. -/
  | transport
  /-- Get the properties in force. -/
  | properties
  /-- Get the phase. -/
  | phase
  deriving DecidableEq, Repr

/-- The operations that move a service through its phases; the others only look. -/
def Operation.moves : Operation → Bool
  | start | stop => true
  | handle | transport | properties | phase => false

/-- What a client gets. -/
inductive Reply where
  /-- The handle of the running connector. -/
  | handle (handle : Handle)
  /-- The service is stopped. -/
  | stopped
  /-- The transport, if there is one. -/
  | transport (transport : Option Transport)
  /-- The properties in force. -/
  | properties (bag : PropertyBag)
  /-- The phase. -/
  | phase (phase : Phase)
  deriving DecidableEq

/-- An operation with what the collaborators answer while it is served. -/
structure Request (F : Type) where
  /-- What is asked. -/
  operation : Operation
  /-- What the collaborators answer. -/
  env : Surroundings F

/-- What came of one request. -/
structure Turn (F : Type) where
  /-- The request. -/
  request : Request F
  /-- How serving it ended. -/
  outcome : Outcome Failure Reply
  /-- What happened while it was served. -/
  journal : Journal F

/-- A service after some requests. -/
structure Run (F : Type) where
  /-- Where it stands. -/
  situation : Situation F
  /-- What came of the requests, in order. -/
  turns : List (Turn F) := []

namespace Service

/-- Serve a request. -/
def serve (s : Service F) (request : Request F) : Step F Reply :=
  match request.operation with
  | .start => do pure (.handle (← s.start request.env))
  | .stop => do
    s.stop request.env
    pure .stopped
  | .handle => do
    let handle ← Step.require id (s.handle (← Step.state))
    pure (.handle handle)
  | .transport => do pure (.transport (← Step.state).transport)
  | .properties => do pure (.properties (← Step.state).properties)
  | .phase => do pure (.phase (← Step.state).phase)

/-- A service that was just built, whose connectors are numbered from a first number on. -/
def built (first : Nat) : Run F := { situation := ⟨{}, first⟩ }

/-- Serve one more request. -/
def extend (s : Service F) (run : Run F) (request : Request F) : Run F :=
  let (outcome, situation, journal) := s.serve request run.situation
  { situation, turns := run.turns ++ [{ request, outcome, journal }] }

/-- Build a service and serve requests in order. -/
def run (s : Service F) (first : Nat) (requests : List (Request F)) : Run F :=
  requests.foldl s.extend (built first)

/-- Serve requests in order from a situation on. -/
def onward (s : Service F) (sit : Situation F) (requests : List (Request F)) : Run F :=
  requests.foldl s.extend { situation := sit }

end Service

namespace Run

/-- All that happened during a run. -/
def journal (run : Run F) : Journal F := run.turns.flatMap Turn.journal

/-- What came of the most recent request that moves the service. -/
def lastMove? (run : Run F) : Option (Turn F) :=
  (run.turns.filter fun turn => turn.request.operation.moves).getLast?

end Run

/-- A further turn adds its journal. -/
theorem Run.journal_snoc (run : Run F) (sit' : Situation F) (turn : Turn F) :
    (Run.mk sit' (run.turns ++ [turn])).journal = run.journal ++ turn.journal := by
  rw [Run.journal, List.flatMap_append, List.flatMap_singleton]
  rfl

/-- Only a request that moves the service becomes the most recent one of these. -/
theorem Run.lastMove?_snoc (run : Run F) (sit' : Situation F) (turn : Turn F) :
    (Run.mk sit' (run.turns ++ [turn])).lastMove? =
      if turn.request.operation.moves then some turn else run.lastMove? := by
  unfold Run.lastMove?
  rw [List.filter_append]
  by_cases h : turn.request.operation.moves = true
  · simp [h]
  · simp [h]

/-- The ways in which a request is served. -/
inductive Served (s : Service F) (sit : Situation F) :
    Request F → Outcome Failure Reply → Situation F → Journal F → Prop
  /-- A start. -/
  | launched {env : Surroundings F} {o : Outcome Failure Handle} {sit' : Situation F}
      {j : Journal F} (launch : Launch s env sit o sit' j) :
      Served s sit ⟨.start, env⟩ (o.map .handle) sit' j
  /-- A stop. -/
  | landed {env : Surroundings F} {o : Outcome Failure Unit} {st : State F} {j : Journal F}
      (landing : Landing s env sit.state o st j) :
      Served s sit ⟨.stop, env⟩ (o.map fun _ => .stopped) ⟨st, sit.next⟩ j
  /-- A request that only looks. -/
  | looked {request : Request F} (looks : request.operation.moves = false)
      (o : Outcome Failure Reply) : Served s sit request o sit []

/-- A request that only looks changes nothing and calls nobody. -/
theorem Service.serve_of_looks (s : Service F) {request : Request F}
    (looks : request.operation.moves = false) (sit : Situation F) :
    ∃ o, s.serve request sit = (o, sit, []) := by
  obtain ⟨operation, env⟩ := request
  cases operation with
  | start | stop => cases looks
  | handle =>
    cases answer : s.handle sit.state with
    | ok handle => exact ⟨.ok (.handle handle), by simp [serve, Step.bind_apply, answer]⟩
    | error f => exact ⟨.error f, by simp [serve, Step.bind_apply, answer]⟩
  | transport | properties | phase => exact ⟨_, rfl⟩

/-- A start is served as it ends. -/
theorem Launch.serve_eq {s : Service F} {env : Surroundings F} {sit sit' : Situation F}
    {o : Outcome Failure Handle} {j : Journal F} (h : Launch s env sit o sit' j) :
    s.serve ⟨.start, env⟩ sit = (o.map .handle, sit', j) := by
  cases o <;> simp [Service.serve, Step.bind_apply, h.eval, Outcome.map]

/-- A stop is served as it ends. -/
theorem Landing.serve_eq {s : Service F} {env : Surroundings F} {sit : Situation F} {st : State F}
    {o : Outcome Failure Unit} {j : Journal F} (h : Landing s env sit.state o st j) :
    s.serve ⟨.stop, env⟩ sit = (o.map fun _ => .stopped, ⟨st, sit.next⟩, j) := by
  have heval := h.eval sit.next
  cases o <;> simp [Service.serve, Step.bind_apply, heval, Outcome.map]

/-- Every request is served in one of these ways, if only a phase that cannot start holds
anything. -/
theorem Service.serve_served (s : Service F) (request : Request F) (sit : Situation F)
    (clear : sit.state.phase.canStart = true → sit.state = { phase := sit.state.phase }) :
    ∃ o sit' j, s.serve request sit = (o, sit', j) ∧ Served s sit request o sit' j := by
  by_cases looks : request.operation.moves = false
  · obtain ⟨o, served⟩ := s.serve_of_looks looks sit
    exact ⟨o, sit, [], served, .looked looks o⟩
  · obtain ⟨operation, env⟩ := request
    cases operation with
    | start =>
      obtain ⟨o, sit', j, launch⟩ := exists_launch s env sit clear
      exact ⟨_, _, _, launch.serve_eq, .launched launch⟩
    | stop =>
      obtain ⟨o, st, j, landing⟩ := exists_landing s env sit.state
      exact ⟨_, _, _, landing.serve_eq, .landed landing⟩
    | handle | transport | properties | phase => exact absurd rfl looks

/-- A run goes on with what serving the next request comes to. -/
theorem Service.extend_eq (s : Service F) {run : Run F} {request : Request F}
    {o : Outcome Failure Reply} {sit' : Situation F} {j : Journal F}
    (h : s.serve request run.situation = (o, sit', j)) :
    s.extend run request = { situation := sit', turns := run.turns ++ [⟨request, o, j⟩] } := by
  rw [extend, h]

/-- Requests are served from where a run stands, and their turns come after its own. -/
theorem Service.foldl_extend (s : Service F) (run : Run F) (requests : List (Request F)) :
    requests.foldl s.extend run =
      { situation := (s.onward run.situation requests).situation
        turns := run.turns ++ (s.onward run.situation requests).turns } := by
  induction requests generalizing run with
  | nil => simp [onward]
  | cons request rest ih =>
    have again := ih (s.extend { situation := run.situation } request)
    rw [onward, List.foldl_cons, List.foldl_cons, ih, again]
    simp [extend]

/-- A run goes on from where it stands. -/
theorem Service.run_append (s : Service F) (first : Nat) (requests later : List (Request F)) :
    s.run first (requests ++ later) =
      { situation := (s.onward (s.run first requests).situation later).situation
        turns := (s.run first requests).turns ++
          (s.onward (s.run first requests).situation later).turns } := by
  rw [run, List.foldl_append, s.foldl_extend]
  rfl

/-- One more request is served from where a run stands. -/
theorem Service.run_snoc (s : Service F) (first : Nat) (requests : List (Request F))
    (request : Request F) :
    s.run first (requests ++ [request]) = s.extend (s.run first requests) request := by
  rw [run, List.foldl_append]
  rfl

/-- The first of some requests is served, and then the others from where it left the service. -/
theorem Service.onward_cons (s : Service F) (sit : Situation F) (request : Request F)
    (rest : List (Request F)) :
    s.onward sit (request :: rest) =
      let (outcome, sit', journal) := s.serve request sit
      { situation := (s.onward sit' rest).situation
        turns := { request, outcome, journal } :: (s.onward sit' rest).turns } := by
  rw [onward, List.foldl_cons, s.foldl_extend]
  rfl

/-- Each request has its turn, in order. -/
theorem Service.requests_onward (s : Service F) (sit : Situation F) (requests : List (Request F)) :
    (s.onward sit requests).turns.map Turn.request = requests := by
  induction requests generalizing sit with
  | nil => rfl
  | cons request rest ih =>
    rw [s.onward_cons]
    exact congrArg (request :: ·) (ih _)

/-- A turn of a run is that of one of the requests. -/
theorem Service.request_mem_of_turn {s : Service F} {first : Nat} {requests : List (Request F)}
    {turn : Turn F} (h : turn ∈ (s.run first requests).turns) : turn.request ∈ requests := by
  have served : (s.run first requests).turns.map Turn.request = requests :=
    s.requests_onward ⟨{}, first⟩ requests
  rw [← served]
  exact List.mem_map_of_mem h

/-- A service whose one binding has an address. -/
def Service.specimen : Service String where
  name := "web"
  kind := "web"
  settings := { socketBinding := some "http" }
  factory := "a"
  manager := ⟨"local", 0⟩
  logger := .ofService "web"

/-- A request of it whose factory and connectors follow a script. -/
def Request.scripted (operation : Operation) (script : Script := {}) : Request String where
  operation
  env := Rehearsal.surroundings
    { scripts := Table.ofList [("a", script)]
      bindings := Table.ofList [("http", .v4 ⟨127, 0, 0, 1⟩ 8080)] }

/-- What holds of a service just built and is kept by every request holds after every run. -/
theorem run_induction {s : Service F} {first : Nat} {motive : Run F → Prop}
    (built : motive (Service.built first))
    (served : ∀ run request, motive run → motive (s.extend run request))
    (requests : List (Request F)) : motive (s.run first requests) := by
  have folded : ∀ (requests : List (Request F)) (run : Run F), motive run →
      motive (requests.foldl s.extend run) := by
    intro requests
    induction requests with
    | nil => exact fun _ h => h
    | cons request rest ih => exact fun run h => ih _ (served run request h)
  exact folded requests _ built

end ConnectorLifecycle
