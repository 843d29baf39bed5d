import ConnectorLifecycle.Proofs.Shape

/-!
# Starting anew

A start of a service that does not run goes like the first start of a service just built, whatever
happened before. The connectors of the two services have different numbers, so they are compared by
a renumbering, under which every end of an attempt corresponds to one of the same kind. What an
earlier operation left is taken down first, which the journal shows, and nothing of it reaches the
new attempt.
-/

namespace ConnectorLifecycle

variable {F : Type}

section Renumbering

/-- A connector under another number. -/
def Instance.renumber (ρ : Nat → Nat) (connector : Instance F) : Instance F :=
  { connector with number := ρ connector.number }

/-- The transport of a connector under another number. -/
def Transport.renumber (ρ : Nat → Nat) (transport : Transport) : Transport :=
  { transport with connector := ρ transport.connector }

/-- The handle of a connector under another number. -/
def Handle.renumber (ρ : Nat → Nat) (handle : Handle) : Handle :=
  { handle with transport := handle.transport.renumber ρ }

/-- A state whose connector has another number. -/
def State.renumber (ρ : Nat → Nat) (st : State F) : State F :=
  { st with
    connector := st.connector.map (Instance.renumber ρ)
    transport := st.transport.map (Transport.renumber ρ) }

/-- A situation whose connectors have other numbers. -/
def Situation.renumber (ρ : Nat → Nat) (sit : Situation F) : Situation F :=
  ⟨sit.state.renumber ρ, ρ sit.next⟩

/-- A call that concerns a connector under another number. -/
def Call.renumber (ρ : Nat → Nat) : Call F → Call F
  | .resolve binding => .resolve binding
  | .create factory number => .create factory (number.map ρ)
  | .start connector bag manager => .start (connector.renumber ρ) bag manager
  | .transport connector => .transport (connector.renumber ρ)
  | .stop connector => .stop (connector.renumber ρ)

/-- An entry that concerns a connector under another number. -/
def Entry.renumber (ρ : Nat → Nat) : Entry F → Entry F
  | .notice n => .notice n
  | .call c => .call (c.renumber ρ)

/-- Collaborators that answer for every connector what others answer for it under another
number. -/
def Surroundings.under (ρ : Nat → Nat) (env : Surroundings F) : Surroundings F where
  resolve := env.resolve
  create := env.create
  start connector := env.start (connector.renumber ρ)
  transport connector := env.transport (connector.renumber ρ)
  stop connector := env.stop (connector.renumber ρ)

end Renumbering

section Correspondence

variable {s : Service F} {env : Surroundings F} {ρ : Nat → Nat} {n : Nat} {st st' : State F}
  {sit : Situation F} {j : Journal F}

/-- An answer that ends an attempt ends it whatever a value would have been made into. -/
theorem Outcome.Halts.map {ε α β γ : Type} {failure : ε → Failure} {answer : Outcome ε α}
    {o : Outcome Failure β} (f : β → γ) (h : answer.Halts failure o) :
    answer.Halts failure (o.map f) := by
  cases h with
  | error e => exact .error e
  | abort m => exact .abort m

/-- Stopping a connector reports nothing of its number. -/
theorem Service.map_farewell (s : Service F) (ρ : Nat → Nat) (connector : Instance F)
    (answer : Outcome CauseChain Unit) :
    (s.farewell connector answer).map (Entry.renumber ρ) =
      s.farewell (connector.renumber ρ) answer := by
  cases answer <;> rfl

/-- A teardown goes the same way under other numbers. -/
theorem Takedown.renumber {o : Outcome Failure Unit} (h : Takedown s (env.under ρ) st o st' j) :
    Takedown s env (st.renumber ρ) o (st'.renumber ρ) (j.map (Entry.renumber ρ)) := by
  cases h with
  | nothing none_held => exact .nothing (congrArg (Option.map _) none_held)
  | stopped held answered =>
    rw [s.map_farewell]
    exact .stopped (congrArg (Option.map _) held) answered
  | cut held unwound =>
    rw [s.map_farewell]
    exact .cut (congrArg (Option.map _) held) unwound

/-- A binding has the same address under other numbers. -/
theorem Service.Located.of_under {binding : String} {address : SocketAddress}
    (h : s.Located (env.under ρ) binding address) : s.Located env binding address :=
  ⟨h.named, h.found⟩

/-- Bringing a connector up goes the same way under another number. -/
theorem Ascent.renumber {o : Outcome Failure Handle} (h : Ascent s (env.under ρ) n o sit j)
    (next : ρ (n + 1) = ρ n + 1) :
    Ascent s env (ρ n) (o.map (Handle.renumber ρ)) (sit.renumber ρ)
      (j.map (Entry.renumber ρ)) := by
  cases h with
  | unbound unnamed => exact .unbound unnamed
  | lookup named halt =>
    have up : Ascent s env (ρ n) _ _ _ := .lookup named (halt.map (Handle.renumber ρ))
    exact up
  | build located halt =>
    have up : Ascent s env (ρ n) _ _ _ := .build located.of_under (halt.map (Handle.renumber ρ))
    exact up
  | start located built halt =>
    have up : Ascent s env (ρ n) _ _ _ :=
      .start located.of_under built (halt.map (Handle.renumber ρ))
    rw [← next] at up
    exact up
  | transport located built started halt =>
    have up : Ascent s env (ρ n) _ _ _ :=
      .transport located.of_under built started (halt.map (Handle.renumber ρ))
    rw [← next] at up
    exact up
  | up located built started shown =>
    have up : Ascent s env (ρ n) _ _ _ := .up located.of_under built started shown
    rw [← next] at up
    exact up

/-- A new attempt goes the same way under another number. -/
theorem Attempt.renumber {o : Outcome Failure Handle} (h : Attempt s (env.under ρ) n o sit j)
    (next : ρ (n + 1) = ρ n + 1) :
    Attempt s env (ρ n) (o.map (Handle.renumber ρ)) (sit.renumber ρ)
      (j.map (Entry.renumber ρ)) := by
  cases h with
  | up ascent =>
    rw [List.map_append]
    exact .up (ascent.renumber next)
  | cut ascent => exact .cut (ascent.renumber next)
  | failed ascent down =>
    rw [List.map_append, List.map_append, List.map_append]
    exact .failed (ascent.renumber next) down.renumber
  | cutDown ascent down =>
    rw [List.map_append, List.map_append]
    exact .cutDown (ascent.renumber next) down.renumber

end Correspondence

/-- The number of a connector if the numbers that begin with a first one begin with another. -/
def shift (first next n : Nat) : Nat := n - first + next

theorem shift_self (first next : Nat) : shift first next first = next := by
  simp [shift]

theorem shift_succ (first next : Nat) : shift first next (first + 1) = next + 1 := by
  simp [shift, Nat.add_comm]

/-- The phase from which a new attempt begins, after the repair that may precede it. -/
def State.repaired (st : State F) : Phase := if st.phase.canStart then st.phase else .failed

/-- What the repair before a new attempt comes to in the journal: nothing, or a notice and the
stopping of a connector that was left. -/
def Service.repairs (s : Service F) (env : Surroundings F) (st : State F) : Journal F :=
  if st.phase.canStart then []
  else .notice (.recovering s.name st.phase) ::
    match st.connector with
    | some connector => s.farewell connector (env.stop connector)
    | none => []

/-- Every collaborator does its part for the connector of a number. -/
def Service.Supported (s : Service F) (env : Surroundings F) (n : Nat) : Prop :=
  ∃ binding address view, s.Located env binding address ∧ env.create s.factory = .ok () ∧
    env.start (s.connector n) (s.bag address) s.manager = .ok () ∧
    env.transport (s.connector n) (s.bag address) = .ok view

/-- The first start of a service just built, for whose first connector the collaborators answer as
for a given one. -/
def Service.firstStart (s : Service F) (env : Surroundings F) (first next : Nat) :
    Outcome Failure Handle × Situation F × Journal F :=
  s.start (env.under (shift first next)) (Service.built first).situation

/-- A start from a situation goes like the first start of a service just built. -/
structure Service.StartsAfresh (s : Service F) (env : Surroundings F) (first : Nat)
    (sit : Situation F) : Prop where
  /-- It ends in the same way. -/
  outcome : (s.start env sit).1 =
    (s.firstStart env first sit.next).1.map (Handle.renumber (shift first sit.next))
  /-- It leaves the same behind. -/
  situation : (s.start env sit).2.1 =
    (s.firstStart env first sit.next).2.1.renumber (shift first sit.next)
  /-- The same happens, after a repair and the change from another phase. -/
  journal : ∃ j, (s.firstStart env first sit.next).2.2 =
      .notice (.changed s.name .created .starting) :: j ∧
    (s.start env sit).2.2 = s.repairs env sit.state ++
      .notice (.changed s.name sit.state.repaired .starting) ::
        j.map (Entry.renumber (shift first sit.next))
  /-- It succeeds if every collaborator does its part. -/
  succeeds : s.Supported env sit.next →
    ∃ handle, (s.start env sit).1 = .ok handle ∧ (s.start env sit).2.1.state.phase = .running

section Start

variable {s : Service F} {env : Surroundings F} {e : Ending} {st : State F} {sit : Situation F}

/-- A repair leaves nothing, if a connector that was left can be stopped. -/
theorem Shape.recovery_of_stops (h : Shape s e st)
    (stops : ∀ connector, st.connector = some connector → (env.stop connector).isAbort = false) :
    Recovery s env st (.ok ()) { phase := st.repaired } (s.repairs env st) := by
  unfold State.repaired Service.repairs
  cases ready : st.phase.canStart with
  | true =>
    have needless : Recovery s env st (.ok ()) st [] := .needless ready
    rw [h.eq_clear ready] at needless ⊢
    exact needless
  | false =>
    cases held : st.connector with
    | none => exact .mended ready (.nothing held)
    | some connector => exact .mended ready (.stopped held (stops connector held))

/-- A start of a service that does not run is a repair and a new attempt. -/
theorem Shape.launch_of_attempt (h : Shape s e sit.state) (idle : sit.state.phase ≠ .running)
    (stops : ∀ connector, sit.state.connector = some connector →
      (env.stop connector).isAbort = false)
    {o : Outcome Failure Handle} {sit' : Situation F} {j : Journal F}
    (attempt : Attempt s env sit.next o sit' j) :
    s.start env sit = (o, sit', s.repairs env sit.state ++
      .notice (.changed s.name sit.state.repaired .starting) ::
        .notice (.endpoint s.logger .starting) :: j) := by
  have ready : sit.state.repaired.canStart = true := by
    unfold State.repaired
    cases hp : sit.state.phase.canStart with
    | true => exact hp
    | false => rfl
  have launch := Launch.anew (s.runningHandle?_of_ne_running idle) (h.recovery_of_stops stops)
    ready attempt
  rw [launch.eval, List.append_assoc]
  rfl

/-- A start of a service that does not run goes like a first start. -/
theorem Shape.startsAfresh (h : Shape s e sit.state) (idle : sit.state.phase ≠ .running)
    (stops : ∀ connector, sit.state.connector = some connector →
      (env.stop connector).isAbort = false) (first : Nat) : s.StartsAfresh env first sit := by
  obtain ⟨o, sit', j, attempt⟩ := exists_attempt s (env.under (shift first sit.next)) first
  have built : Shape s .whole (Service.built first).situation.state := .clear rfl
  have fresh : s.firstStart env first sit.next =
      (o, sit', .notice (.changed s.name .created .starting) ::
        .notice (.endpoint s.logger .starting) :: j) :=
    built.launch_of_attempt nofun nofun attempt
  have renumbered := attempt.renumber (by rw [shift_succ, shift_self])
  rw [shift_self] at renumbered
  have again := h.launch_of_attempt idle stops renumbered
  constructor
  case outcome => rw [again, fresh]
  case situation => rw [again, fresh]
  case journal =>
    rw [again, fresh]
    exact ⟨_, rfl, rfl⟩
  case succeeds =>
    rintro ⟨binding, address, view, located, built, started, shown⟩
    rw [h.launch_of_attempt idle stops (.up (.up located built started shown))]
    exact ⟨_, rfl, rfl⟩

end Start

/-- Whatever happened to a service that does not run, its next start goes like the first start of a
service just built, up to the numbers of connectors: it ends in the same way, leaves the same behind
and shows the same in its journal, apart from the repair that precedes it and from the phase in
which it begins. So it succeeds if only the collaborators do their part now. -/
theorem start_forgets_history (s : Service F) (first : Nat) (requests : List (Request F))
    (env : Surroundings F) (first' : Nat)
    (idle : (s.run first requests).situation.state.phase ≠ .running)
    (stops : ∀ connector, (s.run first requests).situation.state.connector = some connector →
      (env.stop connector).isAbort = false) :
    s.StartsAfresh env first' (s.run first requests).situation :=
  (run_shape s first requests).startsAfresh idle stops first'

/-- A start that was cut short left its connector; the next start stops it and goes like a first
start. -/
theorem start_forgets_cut_start :
    let run := Service.specimen.run 1 [.scripted .start { start := .abort "start blew up" }]
    let env := (Request.scripted .start).env
    run.situation.state.phase ≠ .running ∧
    run.situation.state.connector = some ⟨"a", 1⟩ ∧
    (∀ connector, run.situation.state.connector = some connector →
      (env.stop connector).isAbort = false) ∧
    Service.specimen.StartsAfresh env 1 run.situation := by
  intro run env
  have idle : run.situation.state.phase ≠ .running := by decide +kernel
  have held : run.situation.state.connector = some ⟨"a", 1⟩ := by decide +kernel
  have stops : ∀ connector, run.situation.state.connector = some connector →
      (env.stop connector).isAbort = false := by
    intro connector h
    rw [held] at h
    cases h
    decide +kernel
  exact ⟨idle, held, stops, start_forgets_history Service.specimen 1 _ env 1 idle stops⟩

end ConnectorLifecycle
