import ConnectorLifecycle.Proofs.Calls
import ConnectorLifecycle.Proofs.Calm
import ConnectorLifecycle.Proofs.Conduct

/-!
# Stopping, and stopping again

A stop ends in the same way from every state: the connector that is held is let go of and stopped
once, an error of its own is reported, and all is cleared. Only a connector whose stop unwinds
leaves something to clear, which the next stop does without calling anybody. No connector is ever
stopped twice, whatever is requested later.
-/

namespace ConnectorLifecycle

variable {F : Type}

/-- The error of a connector's stop that an entry reports, with the logger that it goes to. -/
def Entry.stopError? : Entry F → Option (Logger × CauseChain)
  | .notice (.endpoint logger (.connectorStopFailed cause)) => some (logger, cause)
  | _ => none

/-- The errors of stops that a journal reports, in order. -/
def stopErrorsIn (journal : Journal F) : List (Logger × CauseChain) :=
  journal.filterMap Entry.stopError?

/-- The error that the connector which is held answers its stop with, if it does. -/
def State.stopError? (st : State F) (env : Surroundings F) : Option CauseChain :=
  st.connector.bind fun connector => (env.stop connector).cause?

namespace Service

/-- A stop calls nobody and leaves nothing but its phase, whatever anybody would answer. -/
def LandsUnaided (s : Service F) (sit : Situation F) : Prop :=
  ∀ env, (s.stop env sit).1 = .ok () ∧ (s.stop env sit).2.1 = ⟨{ phase := .stopped }, sit.next⟩ ∧
    callsIn (s.stop env sit).2.2 = []

/-- Whatever is requested from now on, and if the service is given up after that, a connector is not
stopped. -/
def NeverStops (s : Service F) (sit : Situation F) (connector : Instance F) : Prop :=
  ∀ later : List (Request F),
    (∀ turn ∈ (s.onward sit later).turns, .stop connector ∉ callsIn turn.journal) ∧
      ∀ env, .stop connector ∉ callsIn (s.drop env (s.onward sit later).situation).2.2

end Service

section Journals

variable {s : Service F} {env : Surroundings F} {st st' : State F} {j : Journal F}
  {o : Outcome Failure Unit}

@[simp] theorem stopErrorsIn_append (j j' : Journal F) :
    stopErrorsIn (j ++ j') = stopErrorsIn j ++ stopErrorsIn j' := List.filterMap_append

@[simp] theorem stopErrorsIn_changes (p q : Phase) : stopErrorsIn (s.changes p q) = [] := by
  unfold Service.changes
  cases p.allows q <;> rfl

@[simp] theorem stopErrorsIn_leave : stopErrorsIn (s.leave st) = [] := by
  unfold Service.leave
  cases st.phase.isRunning with
  | true => exact stopErrorsIn_changes _ _
  | false => rfl

/-- Stopping a connector reports the error that it answers with. -/
theorem stopErrorsIn_farewell (connector : Instance F) (answer : Outcome CauseChain Unit) :
    stopErrorsIn (s.farewell connector answer) = answer.cause?.toList.map (s.logger, ·) := by
  cases answer <;> rfl

/-- A teardown reports the error that the connector that is held answers its stop with. -/
theorem Takedown.stopErrorsIn_eq (h : Takedown s env st o st' j) :
    stopErrorsIn j = (st.stopError? env).toList.map (s.logger, ·) := by
  unfold State.stopError?
  cases h with
  | nothing none_held => rw [none_held]; rfl
  | stopped held answered => rw [held, stopErrorsIn_farewell]; rfl
  | cut held unwound => rw [held, stopErrorsIn_farewell, Option.bind_some, unwound]

/-- A stop reports the error that the connector that is held answers with, and no other. -/
theorem Landing.stopErrorsIn_eq (h : Landing s env st o st' j) :
    stopErrorsIn j = (st.stopError? env).toList.map (s.logger, ·) := by
  have same : st.leaving.stopError? env = st.stopError? env := by
    rw [State.stopError?, st.connector_leaving, State.stopError?]
  cases h with
  | whole down => simp [down.stopErrorsIn_eq, same]
  | cut down => simp [down.stopErrorsIn_eq, same]

/-- A stop whose connector answers, if one is held, leaves nothing but its phase. -/
theorem Landing.eq_of_stopsHeld (h : Landing s env st o st' j) (stops : env.StopsHeld st) :
    o = .ok () ∧ st' = { phase := .stopped } := by
  have returns := h.isAbort_eq_false_iff.mpr stops
  rcases h.ok_or_abort with rfl | ⟨m, rfl⟩
  · exact ⟨rfl, h.state_of_ok⟩
  · cases returns

/-- A stop whose connector unwinds does so too. -/
theorem Landing.eq_of_unwound {connector : Instance F} {m : String}
    (h : Landing s env st o st' j) (held : st.connector = some connector)
    (unwound : env.stop connector = .abort m) : o = .abort m := by
  rcases h.ok_or_abort with rfl | ⟨m', rfl⟩
  · have answered := h.isAbort_eq_false_iff.mp rfl connector held
    simp [unwound, Outcome.isAbort] at answered
  · obtain ⟨connector', _, held', unwound', -, -⟩ := h.of_abort
    obtain rfl : connector = connector' := Option.some.inj (held.symm.trans held')
    rw [Outcome.abort.inj (unwound'.symm.trans unwound)]

/-- A stop that finds no connector calls nobody and leaves nothing but its phase. -/
theorem Service.landsUnaided_of_none {sit : Situation F} (none_held : sit.state.connector = none) :
    s.LandsUnaided sit := by
  intro env
  obtain ⟨o, st', j, landing⟩ := exists_landing s env sit.state
  have stops : env.StopsHeld sit.state := fun connector held => by simp [none_held] at held
  obtain ⟨rfl, rfl⟩ := landing.eq_of_stopsHeld stops
  have heval : s.stop env sit = _ := landing.eval sit.next
  rw [heval]
  exact ⟨rfl, rfl, by simp [landing.callsIn_eq, none_held]⟩

end Journals

section Deeds

variable {s : Service F} {env : Surroundings F} {first : Nat} {connector : Instance F}
  {j : Journal F}

/-- A stop of a connector is one of its deeds. -/
theorem mem_deeds_of_stop (h : .stop connector ∈ callsIn j) :
    (connector.number, Deed.stopped) ∈ env.deeds j :=
  List.mem_filterMap.mpr ⟨_, mem_callsIn.mp h, rfl⟩

/-- A connector that was stopped is not stopped later in the run, nor when the service is given
up. -/
theorem Service.neverStops_of_stopped {requests : List (Request F)}
    (hstopped : (connector.number, Deed.stopped) ∈ (s.run first requests).deeds) :
    s.NeverStops (s.run first requests).situation connector := by
  intro later
  have lives := run_lives s first (requests ++ later)
  rw [s.run_append, Run.deeds_append] at lives
  constructor
  · intro turn hturn hcall
    exact lives.stopped_once hstopped (List.mem_flatMap.mpr ⟨turn, hturn, mem_deeds_of_stop hcall⟩)
  · intro env hcall
    have given := drop_lives env lives
    rw [List.append_assoc] at given
    exact given.stopped_once hstopped (List.mem_append_right _ (mem_deeds_of_stop hcall))

/-- A connector that a stop finds is not stopped later. -/
theorem Service.neverStops_of_held {requests : List (Request F)}
    (held : (s.run first requests).situation.state.connector = some connector) :
    s.NeverStops (s.stop env (s.run first requests).situation).2.1 connector := by
  obtain ⟨o, st', j, landing⟩ := exists_landing s env (s.run first requests).situation.state
  have heval : s.stop env (s.run first requests).situation = _ := landing.eval _
  have hrun := s.run_snoc first requests ⟨.stop, env⟩
  rw [s.extend_eq landing.serve_eq] at hrun
  have hcall : Call.stop connector ∈ callsIn j := by simp [landing.callsIn_eq, held]
  have hstopped : (connector.number, Deed.stopped) ∈
      (s.run first (requests ++ [⟨.stop, env⟩])).deeds := by
    rw [hrun]
    exact List.mem_flatMap.mpr ⟨_, List.mem_append_right _ (List.mem_singleton_self _),
      mem_deeds_of_stop hcall⟩
  have never := s.neverStops_of_stopped hstopped
  rw [hrun] at never
  rw [heval]
  exact never

end Deeds

/-- A stop ends in the same way from every state, also from one that an interruption left. It calls
the stop of the connector that is held and nobody else, and reports the error of that stop if there
is one. If that stop returns, nothing is left but the phase, and another stop changes nothing. If it
unwinds, the stop of the service does so too, but the connector was let go of, and the next stop
clears the rest without calling anybody. In either case the connector is never stopped again. -/
theorem stop_clears_and_stops_once (s : Service F) (first : Nat) (requests : List (Request F))
    (env : Surroundings F) :
    let sit := (s.run first requests).situation
    let st := sit.state
    let result := s.stop env sit
    callsIn result.2.2 = st.connector.toList.map .stop ∧
    stopErrorsIn result.2.2 = (st.stopError? env).toList.map (s.logger, ·) ∧
    (env.StopsHeld st → result.1 = .ok () ∧ result.2.1 = ⟨{ phase := .stopped }, sit.next⟩ ∧
      ∀ env', (s.stop env' result.2.1).2.1 = result.2.1) ∧
    (∀ connector m, st.connector = some connector → env.stop connector = .abort m →
      result.1 = .abort m ∧ result.2.1.state.connector = none) ∧
    s.LandsUnaided result.2.1 ∧
    ∀ connector, st.connector = some connector → s.NeverStops result.2.1 connector := by
  intro sit st result
  obtain ⟨o, st', j, landing⟩ := exists_landing s env st
  have heval : result = (o, ⟨st', sit.next⟩, j) := landing.eval sit.next
  have unaided : s.LandsUnaided ⟨st', sit.next⟩ :=
    Service.landsUnaided_of_none landing.connector_eq_none
  refine ⟨?_, ?_, ?_, ?_, ?_, fun connector held => Service.neverStops_of_held held⟩
  · rw [heval]
    exact landing.callsIn_eq
  · rw [heval]
    exact landing.stopErrorsIn_eq
  · intro stops
    obtain ⟨rfl, rfl⟩ := landing.eq_of_stopsHeld stops
    rw [heval]
    exact ⟨rfl, rfl, fun env' => (unaided env').2.1⟩
  · intro connector m held unwound
    obtain rfl := landing.eq_of_unwound held unwound
    rw [heval]
    exact ⟨rfl, landing.connector_eq_none⟩
  · rw [heval]
    exact unaided

/-- A start that unwound left its connector, and the stop of that unwinds too. -/
theorem stop_clears_and_stops_once_unwound :
    let run := Service.specimen.run 1 [.scripted .start { start := .abort "start blew up" }]
    let env := (Request.scripted .stop { stop := .abort "stop blew up" }).env
    let connector : Instance String := ⟨"a", 1⟩
    let result := Service.specimen.stop env run.situation
    run.situation.state.phase = .starting ∧ run.situation.state.connector = some connector ∧
    result.1 = .abort "stop blew up" ∧ callsIn result.2.2 = [.stop connector] ∧
    Service.specimen.LandsUnaided result.2.1 ∧
    Service.specimen.NeverStops result.2.1 connector := by
  intro run env connector result
  have held : run.situation.state.connector = some connector := by decide +kernel
  obtain ⟨hcalls, _, _, unwound, unaided, never⟩ :=
    stop_clears_and_stops_once Service.specimen 1
      [.scripted .start { start := .abort "start blew up" }] env
  have calls : callsIn result.2.2 = [.stop connector] := by
    rw [hcalls, show (Service.specimen.run 1 _).situation.state.connector = _ from held]
    rfl
  exact ⟨by decide +kernel, held, (unwound connector _ held (by decide +kernel)).1, calls, unaided,
    never connector held⟩

end ConnectorLifecycle
