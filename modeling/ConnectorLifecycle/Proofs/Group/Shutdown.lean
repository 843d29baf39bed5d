import ConnectorLifecycle.Proofs.Group.Census

/-!
# Shutting a group down

A stop of all services goes through the group from its end. It finishes exactly if every connector
that is held answers its stop, and then everything is down and every connector that was ever built
was stopped once. Otherwise it ends in the last stop that unwinds, whose connector is let go of
nevertheless. So every stop of all services that does not finish lets go of a connector, and
repeating it brings everything down at last.
-/

namespace ConnectorLifecycle

variable {F : Type}

/-- A service that is stopped and holds nothing. -/
def Service.stopped (service : Service F) : Member F := ⟨service, { phase := .stopped }⟩

/-- What a stop leaves behind that unwinds in its connector. -/
def Member.stranded (member : Member F) : Member F :=
  { member with state := { member.state.leaving with connector := none } }

/-- Every connector that the members hold answers its stop. -/
def StopsAnswer (env : Nat → Surroundings F) (place : Nat) (members : List (Member F)) : Prop :=
  ∀ i member, members[i]? = some member → (env (place + i)).StopsHeld member.state

/-- Where there is no member, no connector fails to answer. -/
theorem StopsAnswer.nil (env : Nat → Surroundings F) (place : Nat) : StopsAnswer env place [] :=
  fun _ _ found => by simp at found

/-- The connectors of several members are those of the first one and those of the others. -/
theorem stopsAnswer_cons {env : Nat → Surroundings F} {place : Nat} {member : Member F}
    {rest : List (Member F)} :
    StopsAnswer env place (member :: rest) ↔
      (env place).StopsHeld member.state ∧ StopsAnswer env (place + 1) rest := by
  constructor
  · intro h
    refine ⟨h 0 member rfl, fun i other found => ?_⟩
    have later := h (i + 1) other found
    rwa [Nat.add_comm i, ← Nat.add_assoc] at later
  · rintro ⟨now, later⟩ i other found
    cases i with
    | zero =>
      cases found
      exact now
    | succ i =>
      have := later i other found
      rwa [Nat.add_assoc, Nat.add_comm 1] at this

/-- What stands behind some members stands one place further behind them and an earlier one. -/
theorem place_cons (place : Nat) (member : Member F) (before : List (Member F)) :
    place + 1 + before.length = place + (member :: before).length := by
  rw [List.length_cons, Nat.add_assoc, Nat.add_comm 1]

/-- Calm collaborators stop whatever is held. -/
theorem StopsAnswer.of_calm {env : Nat → Surroundings F} (calm : ∀ place, (env place).Calm)
    (place : Nat) (members : List (Member F)) : StopsAnswer env place members :=
  fun _ _ _ => (calm _).stopsHeld _

section Landing

variable {s : Service F} {env : Surroundings F} {st st' : State F} {j : Journal F}
  {o : Outcome Failure Unit}

/-- A stop stops the connector that is held, and no other one. -/
theorem Landing.stoppedIn_eq (h : Landing s env st o st' j) : stoppedIn j = st.held := by
  -- The census gives the stops up to their order only, but there is one connector at most.
  obtain ⟨census, _⟩ := h.census 0
  have hbuilt : builtIn j = [] := by
    have hnext := census.next
    rw [Nat.zero_add] at hnext
    exact List.eq_nil_of_length_eq_zero hnext.symm
  have hperm : (stoppedIn j).Perm st.held := by simpa [hbuilt] using census.kept
  unfold State.held at hperm ⊢
  cases held : st.connector with
  | none =>
    rw [held] at hperm
    exact hperm.eq_nil
  | some connector =>
    rw [held] at hperm
    exact List.perm_singleton.mp hperm

end Landing

section Disband

variable {env : Nat → Surroundings F} {place next : Nat} {members : List (Member F)}
  {sweep : Sweep F Unit}

/-- Stopping members finishes exactly if every connector that they hold answers its stop. -/
theorem Disband.whole_iff (h : Disband env place next members sweep) :
    sweep.abort = none ↔ StopsAnswer env place members := by
  induction h with
  | nil => exact iff_of_true rfl (.nil _ _)
  | unreached first unwound ih =>
    have hsome := Option.isSome_iff_ne_none.mp unwound
    exact iff_of_false hsome fun answer => hsome (ih.mpr (stopsAnswer_cons.mp answer).2)
  | cut first whole landing ih =>
    refine iff_of_false nofun fun answer => ?_
    have := landing.isAbort_eq_false_iff.mpr (stopsAnswer_cons.mp answer).1
    cases this
  | stopped first whole landing ih =>
    exact iff_of_true rfl
      (stopsAnswer_cons.mpr ⟨landing.isAbort_eq_false_iff.mp rfl, ih.mp whole⟩)

/-- Members that could all be stopped are down, the last one first. -/
theorem Disband.of_whole (h : Disband env place next members sweep) (whole : sweep.abort = none) :
    sweep.members = members.map (fun member => member.service.stopped) ∧ sweep.next = next ∧
      stoppedIn sweep.journal = (heldBy members).reverse := by
  induction h with
  | nil => exact ⟨rfl, rfl, rfl⟩
  | unreached _ unwound => exact absurd whole (Option.isSome_iff_ne_none.mp unwound)
  | cut => cases whole
  | @stopped place next member rest st j later first whole' landing ih =>
    obtain ⟨hmembers, hnext, hstops⟩ := ih whole'
    refine ⟨?_, hnext, ?_⟩
    · rw [landing.state_of_ok, hmembers]
      rfl
    · have hheld : member.state.held = member.state.held.reverse := by
        unfold State.held
        cases member.state.connector <;> rfl
      rw [stoppedIn_append, hstops, landing.stoppedIn_eq, heldBy_cons, List.reverse_append, ← hheld]

/-- Stopping members that unwinds ends with the last stop that does: the members after it are down,
and those before it are as they were. -/
theorem Disband.of_abort {m : String} (h : Disband env place next members sweep)
    (unwound : sweep.abort = some m) :
    ∃ before member after connector j, members = before ++ member :: after ∧
      member.state.connector = some connector ∧
      (env (place + before.length)).stop connector = .abort m ∧
      StopsAnswer env (place + before.length + 1) after ∧
      sweep.members =
        before ++ member.stranded :: after.map (fun member => member.service.stopped) ∧
      sweep.next = next ∧ sweep.journal = j ++ [.call (.stop connector)] ∧
      stoppedIn j = (heldBy after).reverse := by
  -- From the stop that unwound on, each earlier member is put in front as it was.
  induction h with
  | nil => cases unwound
  | stopped => cases unwound
  | @unreached place next member rest later first _ ih =>
    obtain ⟨before, other, after, connector, j, hsplit, held, hstop, answer, hmembers, hnext,
      hjournal, hstops⟩ := ih unwound
    rw [place_cons place member] at hstop answer
    exact ⟨member :: before, other, after, connector, j, by rw [hsplit]; rfl, held, hstop, answer,
      by rw [hmembers]; rfl, hnext, hjournal, hstops⟩
  | @cut place next member rest m' st j later first whole landing ih =>
    obtain ⟨connector, j', held, hstop, rfl, rfl⟩ := landing.of_abort
    obtain rfl : m' = m := Option.some.inj unwound
    obtain ⟨hmembers, hnext, hstops⟩ := first.of_whole whole
    have hquiet : stoppedIn j' = [] := by
      have hone := landing.stoppedIn_eq
      rw [stoppedIn_append, State.held, held] at hone
      exact List.append_left_eq_self.mp hone
    refine ⟨[], member, rest, connector, later.journal ++ j', rfl, held, hstop,
      first.whole_iff.mp whole, by rw [hmembers]; rfl, hnext, (List.append_assoc ..).symm, ?_⟩
    rw [stoppedIn_append, hquiet, List.append_nil, hstops]

end Disband

/-- A group that was shut down: its services are stopped and hold nothing, and each connector that
was built was stopped once. -/
structure GroupRun.ShutDown (services : List (Service F)) (run : GroupRun F) : Prop where
  /-- Everything is down. -/
  down : run.group.members = services.map Service.stopped
  /-- Every connector that was built was stopped, and no other one. -/
  stops : (stoppedIn run.journal).Perm (builtIn run.journal)
  /-- No two connectors are the same. -/
  once : ((stoppedIn run.journal).map Instance.number).Nodup

/-- Services that are stopped hold nothing. -/
theorem heldBy_stopped (services : List (Service F)) :
    heldBy (services.map Service.stopped) = [] := by
  refine heldBy_eq_nil fun member hmem => ?_
  obtain ⟨_, _, rfl⟩ := List.mem_map.mp hmem
  rfl

/-- A history after which everything is down has stopped what it built. -/
theorem GroupRun.ShutDown.of_down {services : List (Service F)} {requests : List (GroupRequest F)}
    (down : (Group.run services requests).group.members = services.map Service.stopped) :
    (Group.run services requests).ShutDown services := by
  have census := run_census services requests
  simp only [down, heldBy_stopped] at census
  exact { down, stops := by simpa using census.kept, once := by simpa using census.nodup.2 }

section StopAll

variable {group : Group F} {env : Nat → Surroundings F}

/-- A stop of all services among connectors that answer their stops takes everything down, the last
service first. -/
theorem Group.stopAll_of_answer (answer : StopsAnswer env 0 group.members) :
    ∃ j, group.stopAll env =
        (.ok (), ⟨group.members.map fun member => member.service.stopped, group.next⟩, j) ∧
      stoppedIn j = (heldBy group.members).reverse := by
  obtain ⟨sweep, disband, heval⟩ := group.exists_disband env
  have whole := disband.whole_iff.mpr answer
  obtain ⟨hmembers, hnext, hstops⟩ := disband.of_whole whole
  refine ⟨sweep.journal, ?_, hstops⟩
  rw [heval, whole, Sweep.group, hmembers, hnext]
  rfl

/-- A stop of all services ends in the last stop that unwinds. The services after it are down, and
those before it are as they were. -/
theorem Group.stopAll_of_unanswered (unanswered : ¬ StopsAnswer env 0 group.members) :
    ∃ before member after connector m j, group.members = before ++ member :: after ∧
      member.state.connector = some connector ∧
      (env before.length).stop connector = .abort m ∧
      StopsAnswer env (before.length + 1) after ∧
      group.stopAll env =
        (.abort m,
          ⟨before ++ member.stranded :: after.map (fun member => member.service.stopped),
            group.next⟩,
          j ++ [.call (.stop connector)]) ∧
      stoppedIn j = (heldBy after).reverse := by
  obtain ⟨sweep, disband, heval⟩ := group.exists_disband env
  cases habort : sweep.abort with
  | none => exact absurd (disband.whole_iff.mp habort) unanswered
  | some m =>
    obtain ⟨before, member, after, connector, j, hsplit, held, hstop, answer, hmembers, hnext,
      hjournal, hstops⟩ := disband.of_abort habort
    rw [Nat.zero_add] at hstop answer
    refine ⟨before, member, after, connector, m, j, hsplit, held, hstop, answer, ?_, hstops⟩
    rw [heval, habort, Sweep.group, hmembers, hnext, hjournal]
    rfl

/-- A stop of all services that does not take everything down lets go of a connector. -/
theorem Group.stopAll_down_or_lt (group : Group F) (env : Nat → Surroundings F) :
    (group.stopAll env).2.1.members = group.members.map (fun member => member.service.stopped) ∨
      (heldBy (group.stopAll env).2.1.members).length < (heldBy group.members).length := by
  by_cases answer : StopsAnswer env 0 group.members
  · obtain ⟨j, heval, _⟩ := stopAll_of_answer answer
    rw [heval]
    exact .inl rfl
  · obtain ⟨before, member, after, connector, m, j, hsplit, held, _, _, heval, _⟩ :=
      stopAll_of_unanswered answer
    have hstopped : heldBy (after.map fun member => member.service.stopped) = [] := by
      have := heldBy_stopped (after.map Member.service)
      rwa [List.map_map] at this
    -- The connector whose stop unwound is the one that is held no longer.
    have hstranded : member.stranded.state.held = [] := rfl
    have hmember : member.state.held = [connector] := by rw [State.held, held]; rfl
    refine .inr ?_
    rw [heval, hsplit]
    simp only [heldBy_append, heldBy_cons, hstopped, hstranded, hmember, List.length_append,
      List.length_cons, List.length_nil]
    omega

end StopAll

/-- Stopping all services once more than there are connectors held takes everything down, whatever
the connectors answer. -/
theorem down_of_stopAll_repeated {services : List (Service F)}
    (envs : List (Nat → Surroundings F)) {run : GroupRun F}
    (hservices : run.group.members.map Member.service = services)
    (enough : run.group.members = services.map Service.stopped ∨
      (heldBy run.group.members).length < envs.length) :
    ((envs.map GroupRequest.stopAll).foldl GroupRun.extend run).group.members =
      services.map Service.stopped := by
  -- The number of connectors held falls with every stop until everything is down, and stays there.
  induction envs generalizing run with
  | nil =>
    rcases enough with down | hlt
    · exact down
    · exact absurd hlt (Nat.not_lt_zero _)
  | cons env rest ih =>
    have hnext : (run.extend (.stopAll env)).group = (run.group.stopAll env).2.1 := rfl
    refine ih ?_ ?_
    · rw [hnext, (run.group.stopAll_course env).services_eq, hservices]
    · rw [hnext]
      rcases run.group.stopAll_down_or_lt env with down | hlt
      · refine .inl ?_
        rw [down, ← hservices, List.map_map]
        rfl
      · refine .inr ?_
        rcases enough with down | enough
        · rw [down, heldBy_stopped] at hlt
          exact absurd hlt (Nat.not_lt_zero _)
        · rw [List.length_cons] at enough
          omega

/-- Whatever happened to a group, a stop of all its services brings everything down if every
connector that is held answers its stop, and then every connector that was ever built was stopped
once. Otherwise it ends in the last stop that unwinds: the services after it are down, and those
before it are as they were. Repeating it once more than there are connectors held brings everything
down whatever the connectors answer, and no connector is ever stopped twice. -/
theorem stopAll_completes (services : List (Service F)) (requests : List (GroupRequest F)) :
    let run := Group.run services requests
    (∀ env, StopsAnswer env 0 run.group.members →
      (run.group.stopAll env).1 = .ok () ∧ (run.extend (.stopAll env)).ShutDown services) ∧
    (∀ env, ¬ StopsAnswer env 0 run.group.members →
      ∃ before member after connector m j, run.group.members = before ++ member :: after ∧
        member.state.connector = some connector ∧
        (env before.length).stop connector = .abort m ∧
        StopsAnswer env (before.length + 1) after ∧
        run.group.stopAll env =
          (.abort m,
            ⟨before ++ member.stranded :: after.map (fun member => member.service.stopped),
              run.group.next⟩,
            j ++ [.call (.stop connector)]) ∧
        stoppedIn j = (heldBy after).reverse) ∧
    (∀ envs : List (Nat → Surroundings F),
      (heldBy run.group.members).length < envs.length →
      (Group.run services (requests ++ envs.map .stopAll)).ShutDown services) ∧
    (∀ envs : List (Nat → Surroundings F),
      ((stoppedIn (Group.run services (requests ++ envs.map .stopAll)).journal).map
        Instance.number).Nodup) := by
  intro run
  have hservices : run.group.members.map Member.service = services := run_services services requests
  refine ⟨fun env answer => ?_, fun env => Group.stopAll_of_unanswered, fun envs enough => ?_,
    fun envs => ?_⟩
  · obtain ⟨j, heval, _⟩ := Group.stopAll_of_answer answer
    refine ⟨by rw [heval], ?_⟩
    have hrun : run.extend (.stopAll env) = Group.run services (requests ++ [.stopAll env]) :=
      (Group.run_snoc services requests _).symm
    rw [hrun]
    refine .of_down ?_
    rw [← hrun, GroupRun.extend_eq, Group.serve, heval, ← hservices, List.map_map]
    rfl
  · refine .of_down ?_
    rw [Group.run, List.foldl_append]
    exact down_of_stopAll_repeated envs hservices (.inr enough)
  · have census := run_census services (requests ++ envs.map .stopAll)
    have hnodup := census.nodup.2
    rw [List.map_append] at hnodup
    exact (List.nodup_append.mp hnodup).1

end ConnectorLifecycle
