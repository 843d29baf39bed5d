import ConnectorLifecycle.Proofs.Group.Shutdown

/-!
# The order in which a group is stopped

A stop of all services goes through the definitions from their end. That is the opposite of the
order in which the running connectors were started as long as they were started in the order of the
definitions, as one start of all services does. A service that failed, or was started alone, and
comes up after one that is defined later is still stopped after it.
-/

namespace ConnectorLifecycle

variable {F : Type}

/-- The connectors that run, in the order of the definitions. -/
def Group.running (group : Group F) : List (Instance F) :=
  group.members.flatMap fun member =>
    if member.state.phase.isRunning then member.state.connector.toList else []

/-- The connectors that run, in the order in which they were started. -/
def GroupRun.startOrder (run : GroupRun F) : List (Instance F) :=
  (startedIn run.journal).filter fun connector =>
    (run.group.running.map Instance.number).contains connector.number

/-- A state that no move was cut short to holds a connector only if it runs. -/
theorem Shape.held_eq_of_whole {s : Service F} {st : State F} (h : Shape s .whole st) :
    st.held = if st.phase.isRunning then st.connector.toList else [] := by
  cases h with
  | clear => simp [State.held]
  | up => rfl

/-- After a history in which nothing unwound, exactly the connectors that run are held. -/
theorem heldBy_eq_running {services : List (Service F)} {requests : List (GroupRequest F)}
    (whole : (Group.run services requests).cut = false) :
    heldBy (Group.run services requests).group.members =
      (Group.run services requests).group.running := by
  unfold heldBy Group.running
  rw [List.flatMap_def, List.flatMap_def]
  congr 1
  refine List.map_congr_left fun member hmem => ?_
  obtain ⟨e, he, shape⟩ := run_sound services requests member hmem
  rw [he whole] at shape
  exact shape.held_eq_of_whole

namespace Census

variable {n n' : Nat} {held held' : List (Instance F)} {j : Journal F}

/-- Connectors are started in the order of their numbers. -/
theorem pairwise_startedIn (h : Census n held n' held' j) :
    (startedIn j).Pairwise fun c c' => c.number < c'.number := by
  rw [h.started, ← List.pairwise_map, h.numbers]
  exact List.pairwise_lt_range' 1

/-- What is held after a history that began with nothing was started and not stopped. -/
theorem filter_startedIn (h : Census n [] n' held' j) :
    ((startedIn j).filter fun connector =>
      (held'.map Instance.number).contains connector.number).Perm held' := by
  -- No number is both stopped and held, so the filter keeps exactly the second part of the census.
  have hnodup := h.nodup.2
  rw [List.map_append] at hnodup
  have hstopped : (stoppedIn j).filter (fun connector =>
      (held'.map Instance.number).contains connector.number) = [] := by
    refine List.filter_eq_nil_iff.mpr fun connector hmem hheld => ?_
    exact (List.nodup_append.mp hnodup).2.2 _ (List.mem_map_of_mem hmem) _
      (List.contains_iff_mem.mp hheld) rfl
  have hheld : held'.filter (fun connector =>
      (held'.map Instance.number).contains connector.number) = held' :=
    List.filter_eq_self.mpr fun connector hmem =>
      List.contains_iff_mem.mpr (List.mem_map_of_mem hmem)
  have hperm := h.kept.filter fun connector =>
    (held'.map Instance.number).contains connector.number
  rw [List.filter_append, hstopped, hheld, List.nil_append, List.nil_append] at hperm
  rw [h.started]
  exact hperm.symm

end Census

/-- The connectors that run were started in an order that may differ from that of the definitions;
it is the same exactly if their numbers grow along the definitions. -/
theorem GroupRun.startOrder_perm {services : List (Service F)} {requests : List (GroupRequest F)}
    (whole : (Group.run services requests).cut = false) :
    let run := Group.run services requests
    run.startOrder.Perm run.group.running ∧
      (run.startOrder = run.group.running ↔
        (run.group.running.map Instance.number).Pairwise (· < ·)) := by
  intro run
  have census := run_census services requests
  rw [heldBy_eq_running whole] at census
  have hperm : run.startOrder.Perm run.group.running := census.filter_startedIn
  have hgrows : run.startOrder.Pairwise fun c c' => c.number < c'.number :=
    census.pairwise_startedIn.sublist List.filter_sublist
  refine ⟨hperm, fun heq => ?_, fun hpairwise => ?_⟩
  · rw [List.pairwise_map, ← heq]
    exact hgrows
  · have hgrows' := List.pairwise_map.mp hpairwise
    exact hperm.eq_of_pairwise (fun c c' _ _ hlt hlt' => absurd hlt (Nat.lt_asymm hlt')) hgrows
      hgrows'

/-- After a history in which nothing unwound, a stop of all services whose connectors answer stops
the running ones, in the order opposite to that of the definitions. -/
theorem stoppedIn_stopAll {services : List (Service F)} {requests : List (GroupRequest F)}
    {env : Nat → Surroundings F} (whole : (Group.run services requests).cut = false)
    (answer : StopsAnswer env 0 (Group.run services requests).group.members) :
    stoppedIn ((Group.run services requests).group.stopAll env).2.2 =
      (Group.run services requests).group.running.reverse := by
  obtain ⟨j, heval, hstops⟩ := Group.stopAll_of_answer answer
  rw [heval, hstops, heldBy_eq_running whole]

/-- After a history in which nothing unwound, a stop of all services whose connectors answer stops
exactly the running connectors, in the order opposite to that of the definitions. This is opposite
to the order in which they were started exactly if they were started in the order of the
definitions. -/
theorem stopAll_order (services : List (Service F)) (requests : List (GroupRequest F))
    (env : Nat → Surroundings F) (whole : (Group.run services requests).cut = false)
    (answer : StopsAnswer env 0 (Group.run services requests).group.members) :
    let run := Group.run services requests
    let stops := stoppedIn (run.group.stopAll env).2.2
    stops = run.group.running.reverse ∧ run.startOrder.Perm run.group.running ∧
      (stops = run.startOrder.reverse ↔
        (run.group.running.map Instance.number).Pairwise (· < ·)) := by
  intro run stops
  obtain ⟨hperm, hiff⟩ := GroupRun.startOrder_perm whole
  have hstops : stops = run.group.running.reverse := stoppedIn_stopAll whole answer
  refine ⟨hstops, hperm, ?_⟩
  rw [hstops, List.reverse_inj, eq_comm]
  exact hiff

section Increasing

variable {env : Nat → Surroundings F} {place next : Nat} {members : List (Member F)}
  {sweep : Sweep F Handle}

/-- A state holds one connector at most. -/
theorem State.pairwise_held (st : State F) (R : Instance F → Instance F → Prop) :
    st.held.Pairwise R := by
  unfold State.held
  cases st.connector with
  | none => exact .nil
  | some connector => exact List.pairwise_singleton ..

/-- Members that hold nothing and are started in order get growing numbers. -/
theorem Muster.pairwise_held (h : Muster env place next members sweep)
    (idle : heldBy members = []) :
    (heldBy sweep.members).Pairwise fun c c' => c.number < c'.number := by
  induction h with
  | nil => exact .nil
  | @cut place next member rest m sit j launch =>
    have hrest : heldBy rest = [] := (heldBy_cons_eq_nil.mp idle).2
    rw [heldBy_cons, hrest, List.append_nil]
    exact sit.state.pairwise_held _
  | @up place next member rest handle sit j later launch onward ih
  | @failed place next member rest f sit j later launch onward ih =>
    obtain ⟨hmember, hrest⟩ := heldBy_cons_eq_nil.mp idle
    have now : Census next member.state.held sit.next sit.state.held j := launch.census
    rw [hmember] at now
    have later := (onward.course []).census
    simp only [List.nil_append, hrest] at later
    -- What the first member builds is numbered before anything that the others build.
    refine List.pairwise_append.mpr ⟨sit.state.pairwise_held _, ih hrest, fun c hc c' hc' => ?_⟩
    exact Nat.lt_of_lt_of_le (now.number_lt hc).2 (later.number_lt hc').1

end Increasing

/-- A group none of whose connectors runs, started as a whole and then stopped as a whole, is
stopped in the order opposite to the one in which it was started. -/
theorem stopAll_order_after_startAll {services : List (Service F)}
    {requests : List (GroupRequest F)} {env env' : Nat → Surroundings F}
    (idle : heldBy (Group.run services requests).group.members = [])
    (whole : (Group.run services (requests ++ [.startAll env])).cut = false)
    (answer : StopsAnswer env' 0 (Group.run services (requests ++ [.startAll env])).group.members) :
    let run := Group.run services (requests ++ [.startAll env])
    stoppedIn (run.group.stopAll env').2.2 = run.startOrder.reverse := by
  intro run
  obtain ⟨sweep, muster, heval⟩ := Group.exists_muster
    (fun member hmem => (run_sound services requests member hmem).loosen) env
  have hgroup : run.group = sweep.group := by
    rw [show run = _ from Group.run_snoc .., GroupRun.extend_eq, Group.serve, heval]
  have hpairwise : (heldBy run.group.members).Pairwise fun c c' => c.number < c'.number := by
    rw [hgroup]
    exact muster.pairwise_held idle
  rw [heldBy_eq_running whole] at hpairwise
  rw [stoppedIn_stopAll whole answer,
    (GroupRun.startOrder_perm whole).2.mpr (List.pairwise_map.mpr hpairwise)]

/-- A service that failed at first comes up after the one that is defined after it. -/
theorem stopAll_order_after_retry :
    let services := [Service.specimen, Service.secondSpecimen]
    let requests : List (GroupRequest String) :=
      [.startAll fun _ => .building fun label => label = "b",
        .startAll fun _ => .building fun _ => true]
    let env := fun _ : Nat => Surroundings.building fun _ => true
    let run := Group.run services requests
    let stops := stoppedIn (run.group.stopAll env).2.2
    run.cut = false ∧ StopsAnswer env 0 run.group.members ∧
      run.group.running.map Instance.number = [2, 1] ∧
      stops = run.group.running.reverse ∧ run.startOrder.Perm run.group.running ∧
      (stops = run.startOrder.reverse ↔
        (run.group.running.map Instance.number).Pairwise (· < ·)) := by
  intro services requests env run stops
  have whole : run.cut = false := by decide +kernel
  have answer : StopsAnswer env 0 run.group.members :=
    .of_calm (fun _ => Surroundings.calm_building _) 0 _
  have numbers : run.group.running.map Instance.number = [2, 1] := by decide +kernel
  exact ⟨whole, answer, numbers, stopAll_order services requests env whole answer⟩

/-- A service that comes up at the second try is started last, and stopped last as well. -/
theorem stopAll_not_in_reverse_start_order :
    let run := Group.run [Service.specimen, Service.secondSpecimen]
      [.startAll fun _ => .building fun label => label = "b",
        .startAll fun _ => .building fun _ => true]
    let stopped := run.group.stopAll fun _ => .building fun _ => true
    run.cut = false ∧ stopped.1 = .ok () ∧
      run.startOrder = [⟨"b", 1⟩, ⟨"a", 2⟩] ∧ stoppedIn stopped.2.2 = [⟨"b", 1⟩, ⟨"a", 2⟩] ∧
      stoppedIn stopped.2.2 ≠ run.startOrder.reverse := by
  decide +kernel

end ConnectorLifecycle
