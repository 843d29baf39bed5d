import ConnectorLifecycle.Proofs.Launch

/-!
# Calls and their answers

Of all that happens during an operation, other people's code sees only its calls. `callsIn` lists
them in order. Reporting something calls nobody, and taking a service down calls nobody but the
connector that is held, once. An answer that is an error has a cause, which `Outcome.cause?` gives.
-/

namespace ConnectorLifecycle

variable {F : Type}

/-- The cause of an answer that is an error. -/
def Outcome.cause? {ε α : Type} : Outcome ε α → Option ε
  | .error cause => some cause
  | .ok _ | .abort _ => none

/-- The call that an entry tells of. -/
def Entry.call? : Entry F → Option (Call F)
  | .call c => some c
  | .notice _ => none

/-- The calls of a journal, in order. -/
def callsIn (journal : Journal F) : List (Call F) := journal.filterMap Entry.call?

@[simp] theorem callsIn_nil : callsIn ([] : Journal F) = [] := rfl

@[simp] theorem callsIn_append (j j' : Journal F) :
    callsIn (j ++ j') = callsIn j ++ callsIn j' := List.filterMap_append

@[simp] theorem callsIn_call (call : Call F) (j : Journal F) :
    callsIn (.call call :: j) = call :: callsIn j := rfl

@[simp] theorem callsIn_notice (notice : Notice) (j : Journal F) :
    callsIn (.notice notice :: j) = callsIn j := rfl

/-- A call is in the list if the journal tells of it. -/
theorem mem_callsIn {call : Call F} {j : Journal F} : call ∈ callsIn j ↔ .call call ∈ j := by
  rw [callsIn, List.mem_filterMap]
  constructor
  · rintro ⟨entry, hmem, h⟩
    cases entry with
    | notice => cases h
    | call => cases h; exact hmem
  · exact fun hmem => ⟨_, hmem, rfl⟩

section Journals

variable (s : Service F)

@[simp] theorem callsIn_changes (p q : Phase) : callsIn (s.changes p q) = [] := by
  unfold Service.changes
  cases p.allows q <;> rfl

@[simp] theorem callsIn_leave (st : State F) : callsIn (s.leave st) = [] := by
  unfold Service.leave
  cases st.phase.isRunning with
  | true => exact callsIn_changes s _ _
  | false => rfl

@[simp] theorem callsIn_farewell (connector : Instance F) (answer : Outcome CauseChain Unit) :
    callsIn (s.farewell connector answer) = [.stop connector] := by
  cases answer <;> rfl

end Journals

variable {s : Service F} {env : Surroundings F} {st st' : State F} {j : Journal F}
  {o : Outcome Failure Unit}

/-- A teardown calls the stop of the connector that is held, and nothing else. -/
theorem Takedown.callsIn_eq (h : Takedown s env st o st' j) :
    callsIn j = st.connector.toList.map .stop := by
  cases h with
  | nothing none_held => rw [none_held]; rfl
  | stopped held answered | cut held unwound => rw [held, callsIn_farewell]; rfl

/-- A stop calls the stop of the connector that is held, and nothing else. -/
theorem Landing.callsIn_eq (h : Landing s env st o st' j) :
    callsIn j = st.connector.toList.map .stop := by
  rw [← st.connector_leaving]
  cases h with
  | whole down => simp [down.callsIn_eq]
  | cut down => simp [down.callsIn_eq]

end ConnectorLifecycle
