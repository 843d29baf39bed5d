import ConnectorLifecycle.Proofs.Run

/-!
# The shapes of a state between two requests

Whatever the collaborators answer, a state between two requests has one of five shapes: nothing is
held; the connector is up; a start was cut short in the look-up of its binding; a start was cut
short later and left properties, with or without a connector; a stop was cut short and left all but
the connector. `Shape` also says how the most recent start or stop must have ended for each of them.
Each end of a start and of a stop leads from shape to shape, so every run does.
-/

namespace ConnectorLifecycle

variable {F : Type} {s : Service F}

/-- How a request that moves a service ended. -/
inductive Ending where
  /-- With a value or a failure. -/
  | whole
  /-- The look-up of the binding unwound. -/
  | lookup
  /-- The factory or a connector unwound. -/
  | halfWay
  deriving DecidableEq, Repr

/-- The last thing that happened before a request unwound is the call that did. -/
def Ending.of {ε α : Type} (outcome : Outcome ε α) (journal : Journal F) : Ending :=
  if outcome.isAbort then
    match journal.getLast? with
    | some (.call (.resolve _)) => lookup
    | _ => halfWay
  else whole

/-- Only the end of a journal tells how a request ended. -/
theorem Ending.of_append {ε α : Type} (outcome : Outcome ε α) (before : Journal F)
    {journal : Journal F} (h : journal ≠ []) :
    Ending.of outcome (before ++ journal) = Ending.of outcome journal := by
  have hlast : (before ++ journal).getLast? = journal.getLast? := by
    rw [List.getLast?_append, List.getLast?_eq_some_getLast h]
    rfl
  rw [Ending.of, Ending.of, hlast]

/-- How the most recent request that moved the service ended. -/
def Run.ending (run : Run F) : Ending :=
  match run.lastMove? with
  | some turn => .of turn.outcome turn.journal
  | none => .whole

/-- A request that moves the service decides how the last move ended. -/
theorem Run.ending_snoc (run : Run F) (sit' : Situation F) (turn : Turn F) :
    (Run.mk sit' (run.turns ++ [turn])).ending =
      if turn.request.operation.moves then .of turn.outcome turn.journal else run.ending := by
  unfold Run.ending
  rw [run.lastMove?_snoc]
  by_cases h : turn.request.operation.moves = true
  · simp [h]
  · simp [h]

/-- What a state between two requests looks like, after the way in which the last move ended. -/
inductive Shape (s : Service F) : Ending → State F → Prop
  /-- Nothing is held. -/
  | clear {p : Phase} (ready : p.canStart = true) : Shape s .whole { phase := p }
  /-- The connector is up. -/
  | up (connector : Instance F) (transport : Transport) (address : SocketAddress) :
      Shape s .whole (s.laden .running (some connector) (some transport) address)
  /-- A start was cut short before anything was derived. -/
  | lookup : Shape s .lookup { phase := .starting }
  /-- A start was cut short, before or after its connector was let go of. -/
  | halfUp (connector : Option (Instance F)) (address : SocketAddress) :
      Shape s .halfWay (s.laden .starting connector none address)
  /-- A stop was cut short, after the connector was let go of. -/
  | halfDown (transport : Transport) (address : SocketAddress) :
      Shape s .halfWay (s.laden .stopping none (some transport) address)

variable {env : Surroundings F} {e : Ending} {st st' : State F} {j : Journal F}

/-- A phase from which a start may begin holds nothing. -/
theorem Shape.eq_clear (h : Shape s e st) (ready : st.phase.canStart = true) :
    st = { phase := st.phase } := by
  cases h with
  | clear => rfl
  | up | lookup | halfUp | halfDown => cases ready

/-- A teardown that unwinds let go of a connector, and its stop is the last thing that happened. -/
theorem Takedown.ending_of_abort {m : String} (h : Takedown s env st (.abort m) st' j)
    {ε α : Type} :
    st.connector.isSome = true ∧ j ≠ [] ∧
      Ending.of (.abort m : Outcome ε α) j = .halfWay := by
  cases h with
  | cut held unwound => exact ⟨by rw [held]; rfl, List.cons_ne_nil _ _, rfl⟩

variable {n : Nat} {o : Outcome Failure Handle} {sit sit' : Situation F}

/-- Bringing a connector up that unwinds leaves nothing or a half finished start. -/
theorem Ascent.shape_of_abort {m : String} (h : Ascent s env n (.abort m) sit j)
    {ε α : Type} :
    j ≠ [] ∧ Shape s (Ending.of (.abort m : Outcome ε α) j) sit.state := by
  cases h with
  | lookup named halt => exact ⟨List.cons_ne_nil _ _, .lookup⟩
  | build located halt => exact ⟨List.cons_ne_nil _ _, .halfUp none _⟩
  | start located built halt => exact ⟨List.cons_ne_nil _ _, .halfUp _ _⟩
  | transport located built started halt => exact ⟨List.cons_ne_nil _ _, .halfUp _ _⟩

/-- Bringing a connector up that succeeds leaves it held with its transport. -/
theorem Ascent.state_of_ok {handle : Handle} (h : Ascent s env n (.ok handle) sit j) :
    ∃ binding address, s.Located env binding address ∧
      sit = ⟨s.laden .starting (some (s.connector n)) (some handle.transport) address, n + 1⟩ := by
  cases h with
  | up located built started shown => exact ⟨_, _, located, rfl⟩
  | lookup _ halt | build _ halt | start _ _ halt | transport _ _ _ halt =>
    exact absurd rfl (halt.ne_ok _)

/-- Bringing a connector up that fails with one held derived the properties of an address. -/
theorem Ascent.state_of_error {f : Failure} (h : Ascent s env n (.error f) sit j)
    (held : sit.state.connector.isSome = true) :
    ∃ address, sit = ⟨s.laden .starting (some (s.connector n)) none address, n + 1⟩ := by
  cases h with
  | unbound | lookup | build => cases held
  | start | transport => exact ⟨_, rfl⟩

/-- A teardown that unwinds lets go of the connector of a laden state. -/
theorem Takedown.laden_of_abort {m : String} {p : Phase} {connector : Option (Instance F)}
    {transport : Option Transport} {address : SocketAddress}
    (h : Takedown s env (s.laden p connector transport address) (.abort m) st' j) :
    st' = s.laden p none transport address := h.state_of_abort

/-- A new attempt leaves one of the shapes. -/
theorem Attempt.shape (h : Attempt s env n o sit j) (before : Journal F) :
    Shape s (Ending.of o (before ++ j)) sit.state := by
  cases h with
  | up ascent =>
    obtain ⟨_, address, _, rfl⟩ := ascent.state_of_ok
    exact .up _ _ address
  | cut ascent =>
    obtain ⟨hj, shape⟩ := ascent.shape_of_abort
    exact Ending.of_append _ before hj ▸ shape
  | failed ascent down => exact .clear rfl
  | @cutDown f m sit st j j' ascent down =>
    obtain ⟨held, hj, hend⟩ := down.ending_of_abort (ε := Failure) (α := Handle)
    obtain ⟨address, rfl⟩ := ascent.state_of_error held
    obtain rfl := down.laden_of_abort
    rw [Ending.of_append _ _ (by simp), Ending.of_append _ _ hj, hend]
    exact .halfUp none address

/-- A state in which the connector runs is up. -/
theorem Shape.of_running (h : Shape s e st) (hp : st.phase = .running) :
    ∃ connector transport address,
      st = s.laden .running (some connector) (some transport) address := by
  cases h with
  | clear ready =>
    cases hp
    cases ready
  | up connector transport address => exact ⟨connector, transport, address, rfl⟩
  | lookup | halfUp | halfDown => cases hp

/-- A state whose connector has a handle to show is up. -/
theorem Shape.of_runningHandle (h : Shape s e st) {handle : Handle}
    (runs : s.runningHandle? st = some handle) : Shape s .whole st := by
  have hp := (Service.runningHandle?_eq_some_iff.mp runs).1
  obtain ⟨connector, transport, address, rfl⟩ := h.of_running hp
  exact .up connector transport address

/-- A start of a service that runs calls nobody and changes nothing. -/
theorem Launch.of_running (h : Launch s env sit o sit' j)
    (shape : Shape s e sit.state) (runs : sit.state.phase = .running) :
    ∃ handle, o = .ok handle ∧ sit' = sit ∧ j = [.notice (.alreadyRunning s.name)] := by
  obtain ⟨connector, transport, address, hst⟩ := shape.of_running runs
  have shown : s.runningHandle? sit.state = some (s.handleOf transport) := by
    rw [hst]
    rfl
  cases h with
  | shown => exact ⟨_, rfl, rfl, rfl⟩
  | cut idle | anew idle =>
    rw [shown] at idle
    cases idle

/-- A start leads from shape to shape. -/
theorem Shape.launch (h : Shape s e sit.state) (launch : Launch s env sit o sit' j) :
    Shape s (Ending.of o j) sit'.state := by
  obtain ⟨st, n⟩ := sit
  change Shape s e st at h
  cases launch with
  | shown runs => exact h.of_runningHandle runs
  | cut idle repair =>
    cases repair with
    | cut interrupted down =>
      obtain ⟨held, hj, hend⟩ := down.ending_of_abort (ε := Failure) (α := Handle)
      rw [← List.singleton_append, Ending.of_append _ _ hj, hend]
      cases h with
      | clear ready => exact absurd ready (by simp [interrupted])
      | up => cases idle
      | lookup | halfDown => cases held
      | halfUp connector address =>
        obtain rfl := down.laden_of_abort
        exact .halfUp none address
  | anew idle repair ready attempt => exact attempt.shape _

/-- A stop leads from shape to shape. -/
theorem Shape.landing {o : Outcome Failure Unit} (h : Shape s e st)
    (landing : Landing s env st o st' j) : Shape s (Ending.of o j) st' := by
  cases landing with
  | whole down => exact .clear rfl
  | cut down =>
    obtain ⟨held, hj, hend⟩ := down.ending_of_abort (ε := Failure) (α := Unit)
    rw [Ending.of_append _ _ hj, hend]
    cases h with
    | @clear p => cases p <;> cases held
    | lookup | halfDown => cases held
    | up connector transport address =>
      obtain rfl := down.laden_of_abort
      exact .halfDown transport address
    | halfUp connector address =>
      obtain rfl := down.laden_of_abort
      exact .halfUp none address

/-- Serving a request leads from shape to shape, and a request that only looks stays. -/
theorem Shape.served {request : Request F} {o : Outcome Failure Reply}
    (h : Shape s e sit.state) (served : Served s sit request o sit' j) :
    Shape s (if request.operation.moves then .of o j else e) sit'.state := by
  cases served with
  | @launched env o sit' j launch =>
    have he : Ending.of (o.map Reply.handle) j = .of o j := by cases o <;> rfl
    exact he ▸ h.launch launch
  | @landed env o st' j landing =>
    have he : Ending.of (o.map fun _ => Reply.stopped) j = .of o j := by cases o <;> rfl
    exact he ▸ h.landing landing
  | looked looks =>
    rw [looks]
    exact h

/-- What holds of a service just built, and is kept by whatever serves a request of a state in one
of the shapes, holds after every run. -/
theorem run_served_induction {s : Service F} {first : Nat} {motive : Run F → Prop}
    (built : motive (Service.built first))
    (served : ∀ (run : Run F) (request : Request F) (o : Outcome Failure Reply)
      (sit' : Situation F) (j : Journal F), Shape s run.ending run.situation.state → motive run →
      Served s run.situation request o sit' j →
      motive { situation := sit', turns := run.turns ++ [⟨request, o, j⟩] })
    (requests : List (Request F)) : motive (s.run first requests) := by
  refine (run_induction (motive := fun run =>
    Shape s run.ending run.situation.state ∧ motive run) ⟨.clear rfl, built⟩ ?_ requests).2
  rintro run request ⟨shape, kept⟩
  obtain ⟨o, sit', j, heval, hserved⟩ := s.serve_served request run.situation shape.eq_clear
  rw [s.extend_eq heval]
  refine ⟨?_, served run request o sit' j shape kept hserved⟩
  rw [Run.ending_snoc run]
  exact shape.served hserved

/-- After every run, the state has the shape of the way in which the last move ended. -/
theorem run_shape (s : Service F) (first : Nat) (requests : List (Request F)) :
    Shape s (s.run first requests).ending (s.run first requests).situation.state :=
  run_served_induction (motive := fun run => Shape s run.ending run.situation.state) (.clear rfl)
    (fun run request o sit' j shape _ served => by
      rw [Run.ending_snoc run]
      exact shape.served served) requests

/-- A start that was cut short left no transport. -/
theorem Shape.of_starting (h : Shape s e st) (hp : st.phase = .starting) :
    st.transport = none ∧ e ≠ .whole := by
  cases h with
  | clear ready =>
    cases hp
    cases ready
  | lookup => exact ⟨rfl, nofun⟩
  | halfUp => exact ⟨rfl, nofun⟩
  | up | halfDown => cases hp

/-- A stop that was cut short left no connector, but its transport. -/
theorem Shape.of_stopping (h : Shape s e st) (hp : st.phase = .stopping) :
    (∃ transport address, st = s.laden .stopping none (some transport) address) ∧
      e = .halfWay := by
  cases h with
  | clear ready =>
    cases hp
    cases ready
  | halfDown transport address => exact ⟨⟨transport, address, rfl⟩, rfl⟩
  | up | lookup | halfUp => cases hp

/-- A repair that is made, needed or not, leaves only a phase from which a start may begin. -/
theorem Shape.recovery (h : Shape s e st) (repair : Recovery s env st (.ok ()) st' j) :
    ∃ p, p.canStart = true ∧ st' = { phase := p } := by
  cases repair with
  | needless settled => exact ⟨_, settled, h.eq_clear settled⟩
  | mended interrupted down => exact ⟨.failed, rfl, rfl⟩

/-- A run whose last move did not end as a whole has had a move, and it unwound. -/
theorem Run.lastMove?_of_ending {run : Run F} (h : run.ending ≠ .whole) :
    ∃ turn, run.lastMove? = some turn ∧ turn.outcome.isAbort = true := by
  unfold Run.ending at h
  cases hmove : run.lastMove? with
  | none => simp [hmove] at h
  | some turn =>
    refine ⟨turn, rfl, ?_⟩
    cases habort : turn.outcome.isAbort with
    | true => rfl
    | false => simp [hmove, Ending.of, habort] at h

/-- What a service holds between two requests depends on its phase: nothing before a start and
after a stop or a failure; a connector, its transport and a place to listen while it runs. Only a
start or stop that unwound leaves it in between, without a transport or without a connector. No new
attempt ever finds properties of an earlier one. -/
theorem run_held_by_phase (s : Service F) (first : Nat) (requests : List (Request F)) :
    let run := s.run first requests
    let st := run.situation.state
    (st.phase = .created ∨ st.phase = .stopped ∨ st.phase = .failed →
      st.connector = none ∧ st.transport = none ∧
        st.connectorBag = Table.empty ∧ st.transferBag = Table.empty) ∧
    (st.phase = .running →
      st.connector.isSome = true ∧ st.transport.isSome = true ∧
        PropertyBag.definesConnector st.connectorBag = true) ∧
    (st.phase = .starting → st.transport = none) ∧
    (st.phase = .stopping → st.connector = none) ∧
    (st.phase = .starting ∨ st.phase = .stopping →
      ∃ turn, run.lastMove? = some turn ∧ turn.outcome.isAbort = true) ∧
    (∀ env sit j, s.recover env run.situation = (.ok (), sit, j) →
      Service.insistEmptyBags sit = (.ok (), sit, [])) := by
  intro run st
  have shape : Shape s run.ending st := run_shape s first requests
  refine ⟨?_, ?_, ?_, ?_, ?_, ?_⟩
  · intro hp
    have ready : st.phase.canStart = true := by rcases hp with hp | hp | hp <;> rw [hp] <;> rfl
    rw [shape.eq_clear ready]
    exact ⟨rfl, rfl, rfl, rfl⟩
  · intro hp
    obtain ⟨connector, transport, address, hst⟩ := shape.of_running hp
    rw [hst]
    exact ⟨rfl, rfl, s.settings.definesConnector_connectorProperties (some address)⟩
  · intro hp
    exact (shape.of_starting hp).1
  · intro hp
    obtain ⟨⟨transport, address, hst⟩, _⟩ := shape.of_stopping hp
    rw [hst]
    rfl
  · rintro (hp | hp)
    · exact Run.lastMove?_of_ending (shape.of_starting hp).2
    · refine Run.lastMove?_of_ending ?_
      rw [(shape.of_stopping hp).2]
      nofun
  · intro env sit j heval
    obtain ⟨o, st', j', repair⟩ := exists_recovery s env st
    obtain ⟨rfl, rfl, rfl⟩ : o = .ok () ∧ ⟨st', run.situation.next⟩ = sit ∧ j' = j := by
      simpa using (repair.eval run.situation.next).symm.trans heval
    obtain ⟨p, _, rfl⟩ := shape.recovery repair
    exact Service.insistEmptyBags_apply p _

end ConnectorLifecycle
