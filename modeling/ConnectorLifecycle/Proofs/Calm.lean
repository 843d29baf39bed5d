import ConnectorLifecycle.Proofs.Run

/-!
# Operations among calm collaborators

Nothing but a collaborator makes an operation unwind. A takedown unwinds only in the stop of the
connector that it found, and among collaborators none of whose answers unwinds every operation ends
with a value or a failure. The insistence of a new attempt on finding no properties is no exception,
as every end of a start shows.
-/

namespace ConnectorLifecycle

variable {F : Type} {s : Service F} {env : Surroundings F} {st st' : State F} {j : Journal F}

/-- No answer of the collaborators unwinds. -/
structure Surroundings.Calm (env : Surroundings F) : Prop where
  /-- A binding has an address or none. -/
  resolve : ∀ binding, (env.resolve binding).isAbort = false
  /-- A factory builds or refuses to. -/
  create : ∀ factory, (env.create factory).isAbort = false
  /-- A connector starts or fails to. -/
  start : ∀ connector bag manager, (env.start connector bag manager).isAbort = false
  /-- A connector shows its transport or fails to. -/
  transport : ∀ connector bag, (env.transport connector bag).isAbort = false
  /-- A connector stops or fails to. -/
  stop : ∀ connector, (env.stop connector).isAbort = false

/-- The connector that a state holds, if there is one, answers its stop. -/
def Surroundings.StopsHeld (env : Surroundings F) (st : State F) : Prop :=
  ∀ connector, st.connector = some connector → (env.stop connector).isAbort = false

/-- Among calm collaborators a held connector answers its stop. -/
theorem Surroundings.Calm.stopsHeld (calm : env.Calm) (st : State F) : env.StopsHeld st :=
  fun connector _ => calm.stop connector

/-- An operation unwinds in an answer that ends it exactly if the answer does. -/
theorem Outcome.Halts.isAbort_eq {ε α β : Type} {failure : ε → Failure} {answer : Outcome ε α}
    {o : Outcome Failure β} (h : answer.Halts failure o) : o.isAbort = answer.isAbort := by
  cases h <;> rfl

/-- A change of the value does not make a call unwind. -/
@[simp] theorem Outcome.isAbort_map {ε α β : Type} (f : α → β) (o : Outcome ε α) :
    (o.map f).isAbort = o.isAbort := by
  cases o <;> rfl

/-- A teardown unwinds exactly in the stop of the connector that it found. -/
theorem Takedown.isAbort_eq_false_iff {o : Outcome Failure Unit} (h : Takedown s env st o st' j) :
    o.isAbort = false ↔ env.StopsHeld st := by
  cases h with
  | nothing none_held => exact iff_of_true rfl fun c held => by simp [none_held] at held
  | stopped held answered =>
    refine iff_of_true rfl fun c found => ?_
    rw [held] at found
    cases found
    exact answered
  | cut held unwound =>
    refine iff_of_false (by simp [Outcome.isAbort]) fun stops => ?_
    have := stops _ held
    simp [unwound, Outcome.isAbort] at this

/-- A repair among calm collaborators does not unwind. -/
theorem Recovery.isAbort_of_calm {o : Outcome Failure Unit} (h : Recovery s env st o st' j)
    (calm : env.Calm) : o.isAbort = false := by
  cases h with
  | needless | mended => rfl
  | cut interrupted down => exact down.isAbort_eq_false_iff.mpr (calm.stopsHeld _)

/-- A stop unwinds exactly in the stop of the connector that it found. -/
theorem Landing.isAbort_eq_false_iff {o : Outcome Failure Unit} (h : Landing s env st o st' j) :
    o.isAbort = false ↔ env.StopsHeld st := by
  have hleaving : env.StopsHeld st.leaving ↔ env.StopsHeld st := by
    unfold Surroundings.StopsHeld
    rw [st.connector_leaving]
  cases h with
  | whole down => exact down.isAbort_eq_false_iff.trans hleaving
  | cut down => exact down.isAbort_eq_false_iff.trans hleaving

variable {n : Nat} {sit sit' : Situation F}

/-- Bringing a connector up among calm collaborators does not unwind. -/
theorem Ascent.isAbort_of_calm {o : Outcome Failure Handle} (h : Ascent s env n o sit j)
    (calm : env.Calm) : o.isAbort = false := by
  cases h with
  | unbound | up => rfl
  | lookup named halt => exact halt.isAbort_eq.trans (calm.resolve _)
  | build located halt => exact halt.isAbort_eq.trans (calm.create _)
  | start located built halt => exact halt.isAbort_eq.trans (calm.start _ _ _)
  | transport located built started halt => exact halt.isAbort_eq.trans (calm.transport _ _)

/-- A new attempt among calm collaborators does not unwind. -/
theorem Attempt.isAbort_of_calm {o : Outcome Failure Handle} (h : Attempt s env n o sit j)
    (calm : env.Calm) : o.isAbort = false := by
  cases h with
  | up | failed => rfl
  | cut ascent => exact ascent.isAbort_of_calm calm
  | cutDown ascent down => exact down.isAbort_eq_false_iff.mpr (calm.stopsHeld _)

/-- A start among calm collaborators does not unwind. -/
theorem Launch.isAbort_of_calm {o : Outcome Failure Handle} (h : Launch s env sit o sit' j)
    (calm : env.Calm) : o.isAbort = false := by
  cases h with
  | shown => rfl
  | cut idle repair => exact repair.isAbort_of_calm calm
  | anew idle repair ready attempt => exact attempt.isAbort_of_calm calm

/-- A request that only looks does not unwind. -/
theorem Service.serve_isAbort_of_looks (s : Service F) {request : Request F}
    (looks : request.operation.moves = false) (sit : Situation F) :
    (s.serve request sit).1.isAbort = false := by
  obtain ⟨operation, env⟩ := request
  cases operation with
  | start | stop => cases looks
  | handle =>
    cases answer : s.handle sit.state <;>
      simp [serve, Step.bind_apply, answer, Outcome.isAbort]
  | transport | properties | phase => rfl

/-- A request does not unwind among calm collaborators, if only a phase that cannot start holds
anything. -/
theorem Service.serve_isAbort_of_calm (s : Service F) {request : Request F}
    (calm : request.env.Calm) (sit : Situation F)
    (clear : sit.state.phase.canStart = true → sit.state = { phase := sit.state.phase }) :
    (s.serve request sit).1.isAbort = false := by
  obtain ⟨o, sit', j, heval, served⟩ := s.serve_served request sit clear
  rw [heval]
  cases served with
  | launched launch => exact (Outcome.isAbort_map _ _).trans (launch.isAbort_of_calm calm)
  | landed landing =>
    exact (Outcome.isAbort_map _ _).trans (landing.isAbort_eq_false_iff.mpr (calm.stopsHeld _))
  | looked looks =>
    have := s.serve_isAbort_of_looks looks sit
    rwa [heval] at this

/-- Another service, for the same binding. -/
def Service.secondSpecimen : Service String :=
  { Service.specimen with name := "db", kind := "db", factory := "b", logger := .ofService "db" }

/-- Collaborators that never unwind, among which only some factories build. -/
def Surroundings.building (builds : String → Bool) : Surroundings String where
  resolve _ := .ok (.v4 ⟨127, 0, 0, 1⟩ 8080)
  create label := if builds label then .ok () else .error ⟨"no memory", []⟩
  start _ _ _ := .ok ()
  transport _ _ := .ok ⟨none, 1⟩
  stop _ := .ok ()

/-- They are calm. -/
theorem Surroundings.calm_building (builds : String → Bool) :
    (Surroundings.building builds).Calm where
  resolve _ := rfl
  create label := by
    by_cases h : builds label = true
    · simp [building, h, Outcome.isAbort]
    · simp [building, h, Outcome.isAbort]
  start _ _ _ := rfl
  transport _ _ := rfl
  stop _ := rfl

end ConnectorLifecycle
