import ConnectorLifecycle.Service.Lifecycle

/-!
# What a step gives in a situation

One equation for each building block of a step. Together they evaluate an operation on a situation
whose phase, connector and answers are known, which is how the ends of every operation are found.
-/

namespace ConnectorLifecycle

namespace Step

variable {F α β ε : Type}

@[simp] theorem pure_apply (a : α) (sit : Situation F) :
    (pure a : Step F α) sit = (.ok a, sit, []) := rfl

@[simp] theorem state_apply (sit : Situation F) :
    (state : Step F (State F)) sit = (.ok sit.state, sit, []) := rfl

@[simp] theorem modify_apply (change : State F → State F) (sit : Situation F) :
    modify change sit = (.ok (), { sit with state := change sit.state }, []) := rfl

@[simp] theorem fail_apply (f : Failure) (sit : Situation F) :
    (fail f : Step F α) sit = (.error f, sit, []) := rfl

@[simp] theorem report_apply (notice : Notice) (sit : Situation F) :
    report notice sit = (.ok (), sit, [.notice notice]) := rfl

@[simp] theorem insist_true (condition : String) (sit : Situation F) :
    insist true condition sit = (.ok (), sit, []) := rfl

@[simp] theorem ask_ok (call : Call F) (a : α) (sit : Situation F) :
    ask call (.ok a : Outcome ε α) sit = (.ok (.ok a), sit, [.call call]) := rfl

@[simp] theorem ask_error (call : Call F) (e : ε) (sit : Situation F) :
    ask call (.error e : Outcome ε α) sit = (.ok (.error e), sit, [.call call]) := rfl

@[simp] theorem ask_abort (call : Call F) (m : String) (sit : Situation F) :
    ask call (.abort m : Outcome ε α) sit = (.abort m, sit, [.call call]) := rfl

@[simp] theorem require_ok (failure : ε → Failure) (a : α) (sit : Situation F) :
    require failure (.ok a) sit = (.ok a, sit, []) := rfl

@[simp] theorem require_error (failure : ε → Failure) (e : ε) (sit : Situation F) :
    (require failure (.error e) : Step F α) sit = (.error (failure e), sit, []) := rfl

/-- A factory that builds gives the connector of the next number. -/
theorem create_of_ok {env : Surroundings F} {factory : F} (h : env.create factory = .ok ())
    (sit : Situation F) : create env factory sit =
      (.ok (.ok ⟨factory, sit.next⟩), { sit with next := sit.next + 1 },
        [.call (.create factory (some sit.next))]) := by
  rw [create, h]

/-- A factory that answers with an error builds nothing. -/
theorem create_of_error {env : Surroundings F} {factory : F} {e : CauseChain}
    (h : env.create factory = .error e) (sit : Situation F) :
    create env factory sit = (.ok (.error e), sit, [.call (.create factory none)]) := by
  rw [create, h]

/-- A factory that unwinds builds nothing. -/
theorem create_of_abort {env : Surroundings F} {factory : F} {m : String}
    (h : env.create factory = .abort m) (sit : Situation F) :
    create env factory sit = (.abort m, sit, [.call (.create factory none)]) := by
  rw [create, h]

/-- An attempted step always gives a result, unless it unwinds. -/
theorem attempt_apply (step : Step F α) (sit : Situation F) :
    attempt step sit =
      match step sit with
      | (.ok a, sit', journal) => (.ok (.ok a), sit', journal)
      | (.error f, sit', journal) => (.ok (.error f), sit', journal)
      | (.abort m, sit', journal) => (.abort m, sit', journal) := by
  unfold attempt
  rcases step sit with ⟨outcome, sit', journal⟩
  cases outcome <;> rfl

/-- A step followed by a rest gives what its own end lets the rest give. -/
theorem bind_apply (step : Step F α) (rest : α → Step F β) (sit : Situation F) :
    (step >>= rest) sit =
      match step sit with
      | (.ok a, sit', journal) =>
        ((rest a sit').1, (rest a sit').2.1, journal ++ (rest a sit').2.2)
      | (.error f, sit', journal) => (.error f, sit', journal)
      | (.abort m, sit', journal) => (.abort m, sit', journal) := by
  change andThen step rest sit = _
  unfold andThen
  rcases step sit with ⟨outcome, sit', journal⟩
  cases outcome <;> rfl

end Step

end ConnectorLifecycle
