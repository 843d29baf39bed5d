import ConnectorLifecycle.Proofs.Shape

/-!
# What the observers tell

A client can look at the handle, the transport and the properties. The handle always tells whether
the connector runs. The transport and the properties tell it after every run whose last start or
stop ended as a whole, and also after one that only the look-up of the binding cut short; after any
other interruption at least one of them shows what was left behind. `observers_agree_iff` is exact.
-/

namespace ConnectorLifecycle

variable {F : Type} {s : Service F} {e : Ending} {st : State F}

/-- The observers tell the same as the phase. -/
structure Service.ObserversAgree (s : Service F) (st : State F) : Prop where
  /-- There are properties exactly while the connector runs. -/
  properties : st.properties.isEmpty = false ↔ st.phase = .running
  /-- There is a transport exactly while the connector runs. -/
  transport : st.transport.isSome = true ↔ st.phase = .running
  /-- There is a handle exactly while the connector runs. -/
  handle : (∃ handle, s.handle st = .ok handle) ↔ st.phase = .running
  /-- Without a running connector, the phase is named instead. -/
  refusal : st.phase ≠ .running → s.handle st = .error (.notRunning s.name st.phase)

/-- A laden state has properties. -/
theorem Service.isEmpty_properties_laden (s : Service F) (p : Phase)
    (connector : Option (Instance F)) (transport : Option Transport) (address : SocketAddress) :
    (s.laden p connector transport address).properties.isEmpty = false :=
  s.settings.isEmpty_properties (some address)

/-- Without a running connector there is no handle, and the phase is named. -/
theorem Service.handle_of_ne_running (s : Service F) (hp : st.phase ≠ .running) :
    s.handle st = .error (.notRunning s.name st.phase) := by
  rw [handle, s.runningHandle?_of_ne_running hp]

/-- A connector that is up has its handle. -/
theorem Service.handle_laden (s : Service F) (connector : Option (Instance F))
    (transport : Transport) (address : SocketAddress) :
    s.handle (s.laden .running connector (some transport) address) =
      .ok (s.handleOf transport) := rfl

/-- The handle tells whether the connector runs, in every shape. -/
theorem Shape.handle_ok_iff (h : Shape s e st) :
    (∃ handle, s.handle st = .ok handle) ↔ st.phase = .running := by
  constructor
  · rintro ⟨handle, hok⟩
    by_cases hp : st.phase = .running
    · exact hp
    · rw [s.handle_of_ne_running hp] at hok
      cases hok
  · intro hp
    obtain ⟨connector, transport, address, rfl⟩ := h.of_running hp
    exact ⟨_, s.handle_laden ..⟩

/-- A transport stays behind only when a stop was cut short. -/
theorem Shape.transport_isSome_iff (h : Shape s e st) :
    st.transport.isSome = true ↔ st.phase = .running ∨ st.phase = .stopping := by
  cases h with
  | clear ready =>
    refine iff_of_false nofun ?_
    rintro (hp | hp) <;> cases hp <;> cases ready
  | lookup | halfUp => exact iff_of_false nofun (by rintro (hp | hp) <;> cases hp)
  | up => exact iff_of_true rfl (.inl rfl)
  | halfDown => exact iff_of_true rfl (.inr rfl)

/-- Properties stay behind whenever a move was cut short half way. -/
theorem Shape.properties_nonempty_iff (h : Shape s e st) :
    st.properties.isEmpty = false ↔ st.phase = .running ∨ e = .halfWay := by
  cases h with
  | clear ready =>
    refine iff_of_false nofun ?_
    rintro (hp | hp)
    · cases hp
      cases ready
    · cases hp
  | lookup => exact iff_of_false nofun (by rintro (hp | hp) <;> cases hp)
  | up => exact iff_of_true (s.isEmpty_properties_laden ..) (.inl rfl)
  | halfUp | halfDown => exact iff_of_true (s.isEmpty_properties_laden ..) (.inr rfl)

/-- The observers agree with the phase exactly if no move was cut short half way. -/
theorem Shape.observersAgree_iff (h : Shape s e st) : s.ObserversAgree st ↔ e ≠ .halfWay := by
  constructor
  · rintro agree rfl
    have hp := agree.properties.mp (h.properties_nonempty_iff.mpr (.inr rfl))
    cases h <;> cases hp
  · intro he
    have hstop : st.phase ≠ .stopping := fun hp => he (h.of_stopping hp).2
    exact
      { properties := by rw [h.properties_nonempty_iff, or_iff_left he]
        transport := by rw [h.transport_isSome_iff, or_iff_left hstop]
        handle := h.handle_ok_iff
        refusal := s.handle_of_ne_running }

/-- After every run, the handle tells whether the connector runs, the transport is there while it
runs and after a stop that was cut short, and the properties are there while it runs and after any
move that was cut short half way. So the observers agree with the phase exactly if the last move
was not cut short half way. -/
theorem observers_agree_iff (s : Service F) (first : Nat) (requests : List (Request F)) :
    let run := s.run first requests
    let st := run.situation.state
    ((∃ handle, s.handle st = .ok handle) ↔ st.phase = .running) ∧
    (st.phase ≠ .running → s.handle st = .error (.notRunning s.name st.phase)) ∧
    (st.transport.isSome = true ↔ st.phase = .running ∨ st.phase = .stopping) ∧
    (st.properties.isEmpty = false ↔ st.phase = .running ∨ run.ending = .halfWay) ∧
    (s.ObserversAgree st ↔ run.ending ≠ .halfWay) := by
  intro run st
  have shape : Shape s run.ending st := run_shape s first requests
  exact ⟨shape.handle_ok_iff, s.handle_of_ne_running, shape.transport_isSome_iff,
    shape.properties_nonempty_iff, shape.observersAgree_iff⟩

/-- A connector whose stop unwinds is gone, and its transport and properties are still shown. So the
observers do not agree with the phase after every run. -/
theorem observers_disagree_after_cut_stop :
    ¬ ∀ (s : Service String) (first : Nat) (requests : List (Request String)),
      s.ObserversAgree (s.run first requests).situation.state := by
  intro agree
  let requests := [.scripted .start, Request.scripted .stop { stop := .abort "stop blew up" }]
  have shown : (Service.specimen.run 1 requests).situation.state.transport.isSome = true ∧
      (Service.specimen.run 1 requests).situation.state.phase = .stopping := by
    decide +kernel
  have hp := (agree Service.specimen 1 requests).transport.mp shown.1
  rw [shown.2] at hp
  cases hp

end ConnectorLifecycle
