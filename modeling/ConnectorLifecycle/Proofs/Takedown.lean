import ConnectorLifecycle.Proofs.Step

/-!
# How taking a service down ends

`Takedown`, `Recovery` and `Landing` list the ends of a teardown, of the repair that precedes a new
attempt, and of a stop. Each end comes with the state that it leaves and with everything reported
and called on the way; a state has exactly one of them for given answers. Only the connector's own
stop can unwind, and it does so after the connector was let go of and before anything else is
forgotten.
-/

namespace ConnectorLifecycle

open Step

variable {F : Type} {s : Service F} {env : Surroundings F} {st : State F}

/-- What is reported of a change of phase. -/
def Service.changes (s : Service F) (before after : Phase) : Journal F :=
  (if before.allows after then [] else [.notice (.unexpectedChange s.name before after)]) ++
    [.notice (.changed s.name before after)]

/-- A change of phase always goes through, expected or not. -/
theorem Service.changePhase_apply (s : Service F) (phase : Phase) (sit : Situation F) :
    s.changePhase phase sit =
      (.ok (), { sit with state := { sit.state with phase } },
        s.changes sit.state.phase phase) := by
  unfold Service.changePhase Service.changes
  by_cases h : sit.state.phase.allows phase = true
  · simp [bind_apply, h]
  · simp [bind_apply, h]

/-- What stopping a connector comes to in the journal, up to an answer that unwinds. -/
def Service.farewell (s : Service F) (connector : Instance F) (answer : Outcome CauseChain Unit) :
    Journal F :=
  [.notice (.endpoint s.logger .connectorStopping), .call (.stop connector)] ++
    match answer with
    | .ok () => [.notice (.endpoint s.logger .connectorStopped)]
    | .error cause =>
      [.notice (.endpoint s.logger (.connectorStopFailed cause)),
        .notice (.endpoint s.logger .connectorStopped)]
    | .abort _ => []

/-- A stop that answers at all, even with an error, lets the teardown go on. -/
theorem Service.stopConnector_of_answer (s : Service F) {connector : Instance F}
    (h : (env.stop connector).isAbort = false) (sit : Situation F) :
    s.stopConnector env connector sit =
      (.ok (), { sit with state := { sit.state with connector := none } },
        s.farewell connector (env.stop connector)) := by
  unfold Service.stopConnector Service.reportEvent
  cases ha : env.stop connector with
  | ok u => simp [bind_apply, farewell]
  | error e => simp [bind_apply, farewell]
  | abort m => simp [ha, Outcome.isAbort] at h

/-- A stop that unwinds leaves the connector let go of. -/
theorem Service.stopConnector_of_abort (s : Service F) {connector : Instance F} {m : String}
    (h : env.stop connector = .abort m) (sit : Situation F) :
    s.stopConnector env connector sit =
      (.abort m, { sit with state := { sit.state with connector := none } },
        s.farewell connector (.abort m)) := by
  unfold Service.stopConnector Service.reportEvent
  simp [bind_apply, farewell, h]

/-- The ends of a teardown. -/
inductive Takedown (s : Service F) (env : Surroundings F) (st : State F) :
    Outcome Failure Unit → State F → Journal F → Prop
  /-- There was no connector to stop. -/
  | nothing (none_held : st.connector = none) : Takedown s env st (.ok ()) { phase := st.phase } []
  /-- The connector was stopped, with or without an error of its own. -/
  | stopped {connector : Instance F} (held : st.connector = some connector)
      (answered : (env.stop connector).isAbort = false) :
      Takedown s env st (.ok ()) { phase := st.phase } (s.farewell connector (env.stop connector))
  /-- The connector's stop unwound. -/
  | cut {connector : Instance F} {m : String} (held : st.connector = some connector)
      (unwound : env.stop connector = .abort m) :
      Takedown s env st (.abort m) { st with connector := none } (s.farewell connector (.abort m))

variable {st' : State F} {j : Journal F} {o : Outcome Failure Unit}

/-- A teardown ends in the way listed for it. -/
theorem Takedown.eval (h : Takedown s env st o st' j) (n : Nat) :
    s.teardown env ⟨st, n⟩ = (o, ⟨st', n⟩, j) := by
  unfold Service.teardown
  cases h with
  | nothing none_held => simp [bind_apply, none_held, Table.empty]
  | stopped held answered =>
    simp [bind_apply, held, s.stopConnector_of_answer answered, Table.empty]
  | cut held unwound => simp [bind_apply, held, s.stopConnector_of_abort unwound]

/-- Every teardown has one of the listed ends. -/
theorem exists_takedown (s : Service F) (env : Surroundings F) (st : State F) :
    ∃ o st' j, Takedown s env st o st' j := by
  cases held : st.connector with
  | none => exact ⟨_, _, _, .nothing held⟩
  | some connector =>
    cases answer : env.stop connector with
    | abort m => exact ⟨_, _, _, .cut held answer⟩
    | ok u => exact ⟨_, _, _, .stopped held (by rw [answer]; rfl)⟩
    | error e => exact ⟨_, _, _, .stopped held (by rw [answer]; rfl)⟩

/-- A teardown never fails; it finishes or unwinds. -/
theorem Takedown.ok_or_abort (h : Takedown s env st o st' j) :
    o = .ok () ∨ ∃ m, o = .abort m := by
  cases h with
  | nothing => exact .inl rfl
  | stopped => exact .inl rfl
  | cut => exact .inr ⟨_, rfl⟩

/-- A teardown that finishes leaves nothing but the phase. -/
theorem Takedown.state_of_ok (h : Takedown s env st (.ok ()) st' j) :
    st' = { phase := st.phase } := by
  cases h <;> rfl

/-- A teardown that unwinds leaves all but the connector. -/
theorem Takedown.state_of_abort {m : String} (h : Takedown s env st (.abort m) st' j) :
    st' = { st with connector := none } := by
  cases h
  rfl

/-- A teardown lets go of the connector. -/
theorem Takedown.connector_eq_none (h : Takedown s env st o st' j) : st'.connector = none := by
  cases h with
  | nothing | stopped | cut => rfl

/-- The ends of the repair before a new attempt. -/
inductive Recovery (s : Service F) (env : Surroundings F) (st : State F) :
    Outcome Failure Unit → State F → Journal F → Prop
  /-- Nothing was left half way. -/
  | needless (settled : st.phase.canStart = true) : Recovery s env st (.ok ()) st []
  /-- What was left half way is taken down. -/
  | mended {st' : State F} {j : Journal F} (interrupted : st.phase.canStart = false)
      (down : Takedown s env st (.ok ()) st' j) :
      Recovery s env st (.ok ()) { phase := .failed } (.notice (.recovering s.name st.phase) :: j)
  /-- Taking it down unwound again. -/
  | cut {m : String} {st' : State F} {j : Journal F} (interrupted : st.phase.canStart = false)
      (down : Takedown s env st (.abort m) st' j) :
      Recovery s env st (.abort m) st' (.notice (.recovering s.name st.phase) :: j)

/-- A repair ends in the way listed for it. -/
theorem Recovery.eval (h : Recovery s env st o st' j) (n : Nat) :
    s.recover env ⟨st, n⟩ = (o, ⟨st', n⟩, j) := by
  unfold Service.recover
  cases h with
  | needless settled => simp [bind_apply, settled]
  | mended interrupted down =>
    have hst := down.state_of_ok
    simp [bind_apply, interrupted, down.eval n, hst]
  | cut interrupted down => simp [bind_apply, interrupted, down.eval n]

/-- Every repair has one of the listed ends. -/
theorem exists_recovery (s : Service F) (env : Surroundings F) (st : State F) :
    ∃ o st' j, Recovery s env st o st' j := by
  cases hp : st.phase.canStart with
  | true => exact ⟨_, _, _, .needless hp⟩
  | false =>
    obtain ⟨o, st', j, down⟩ := exists_takedown s env st
    rcases down.ok_or_abort with rfl | ⟨m, rfl⟩
    · exact ⟨_, _, _, .mended hp down⟩
    · exact ⟨_, _, _, .cut hp down⟩

/-- The state that a stop takes down. -/
def State.leaving (st : State F) : State F :=
  if st.phase.isRunning then { st with phase := .stopping } else st

/-- A stop takes down the connector that is held. -/
theorem State.connector_leaving (st : State F) : st.leaving.connector = st.connector := by
  unfold State.leaving
  by_cases hr : st.phase.isRunning = true
  · simp [hr]
  · simp [hr]

/-- What a stop reports before it takes anything down. -/
def Service.leave (s : Service F) (st : State F) : Journal F :=
  if st.phase.isRunning then s.changes st.phase .stopping else []

/-- The ends of a stop. -/
inductive Landing (s : Service F) (env : Surroundings F) (st : State F) :
    Outcome Failure Unit → State F → Journal F → Prop
  /-- Everything is down. -/
  | whole {st' : State F} {j : Journal F} (down : Takedown s env st.leaving (.ok ()) st' j) :
      Landing s env st (.ok ()) { phase := .stopped }
        (s.leave st ++ (j ++ s.changes st.leaving.phase .stopped))
  /-- The connector's stop unwound. -/
  | cut {m : String} {st' : State F} {j : Journal F}
      (down : Takedown s env st.leaving (.abort m) st' j) :
      Landing s env st (.abort m) st' (s.leave st ++ j)

/-- A stop is a teardown of the state that it leaves, and then the change to `stopped`. -/
theorem Service.stop_apply (s : Service F) (env : Surroundings F) (st : State F) (n : Nat) :
    s.stop env ⟨st, n⟩ =
      let rest := (do s.teardown env; s.changePhase .stopped : Step F Unit) ⟨st.leaving, n⟩
      (rest.1, rest.2.1, s.leave st ++ rest.2.2) := by
  unfold Service.stop Service.leave State.leaving
  by_cases hr : st.phase.isRunning = true
  · simp only [bind_apply, state_apply, hr, if_true, s.changePhase_apply, List.nil_append]
  · simp only [bind_apply, state_apply, hr, if_false, List.nil_append, Bool.false_eq_true]

/-- A stop ends in the way listed for it. -/
theorem Landing.eval (h : Landing s env st o st' j) (n : Nat) :
    s.stop env ⟨st, n⟩ = (o, ⟨st', n⟩, j) := by
  rw [s.stop_apply]
  cases h with
  | whole down =>
    have hst := down.state_of_ok
    simp [bind_apply, down.eval n, s.changePhase_apply, hst]
  | cut down => simp [bind_apply, down.eval n]

/-- Every stop has one of the listed ends. -/
theorem exists_landing (s : Service F) (env : Surroundings F) (st : State F) :
    ∃ o st' j, Landing s env st o st' j := by
  obtain ⟨o, st', j, down⟩ := exists_takedown s env st.leaving
  rcases down.ok_or_abort with rfl | ⟨m, rfl⟩
  · exact ⟨_, _, _, .whole down⟩
  · exact ⟨_, _, _, .cut down⟩

/-- A stop lets go of the connector. -/
theorem Landing.connector_eq_none (h : Landing s env st o st' j) : st'.connector = none := by
  cases h with
  | whole => rfl
  | cut down => exact down.connector_eq_none

/-- A stop never fails; it finishes or unwinds. -/
theorem Landing.ok_or_abort (h : Landing s env st o st' j) : o = .ok () ∨ ∃ m, o = .abort m := by
  cases h with
  | whole => exact .inl rfl
  | cut => exact .inr ⟨_, rfl⟩

/-- A stop that finishes leaves nothing. -/
theorem Landing.state_of_ok (h : Landing s env st (.ok ()) st' j) :
    st' = { phase := .stopped } := by
  cases h
  rfl

/-- A stop that unwinds does so in the connector that was held, which it let go of. -/
theorem Landing.of_abort {m : String} (h : Landing s env st (.abort m) st' j) :
    ∃ connector j', st.connector = some connector ∧ env.stop connector = .abort m ∧
      st' = { st.leaving with connector := none } ∧ j = j' ++ [.call (.stop connector)] := by
  cases h with
  | cut down =>
    cases down with
    | @cut connector m held unwound =>
      refine ⟨connector, s.leave st ++ [.notice (.endpoint s.logger .connectorStopping)],
        ?_, unwound, rfl, ?_⟩
      · rw [← st.connector_leaving, held]
      · rw [List.append_assoc]
        rfl

/-- Giving a service up is nothing if no connector is held, and else a stop, which is announced. -/
theorem Service.drop_landing (s : Service F) (env : Surroundings F) (sit : Situation F) :
    (sit.state.connector = none ∧ s.drop env sit = (.ok (), sit, [])) ∨
      ∃ o st' j, sit.state.connector.isSome = true ∧ Landing s env sit.state o st' j ∧
        s.drop env sit =
          (o, ⟨st', sit.next⟩, .notice (.droppedWhileHolding s.name) :: j) := by
  cases held : sit.state.connector with
  | none => exact .inl ⟨rfl, by simp [Service.drop, bind_apply, held]⟩
  | some connector =>
    obtain ⟨o, st', j, landing⟩ := exists_landing s env sit.state
    have heval : s.stop env sit = _ := landing.eval sit.next
    exact .inr ⟨o, st', j, rfl, landing, by
      cases o <;> simp [Service.drop, bind_apply, held, heval]⟩

end ConnectorLifecycle
