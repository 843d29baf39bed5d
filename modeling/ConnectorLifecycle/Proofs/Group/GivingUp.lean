import ConnectorLifecycle.Proofs.Group.Shutdown

/-!
# Giving a group up

A group is given up service by service, in order, and each connector that is still held is stopped.
A stop that unwinds does not keep the others from being stopped: they are reached while it is passed
on. Only if another stop unwinds then, the process ends, and what comes after is not reached. So the
connectors that are stopped are those of the services reached, in order; together with everything
that was stopped before, no connector is stopped twice, and none that was built is forgotten unless
the process ends.
-/

namespace ConnectorLifecycle

variable {F : Type}

/-- The connector that a member holds unwinds in its stop. -/
def Member.StopUnwinds (member : Member F) (env : Surroundings F) (m : String) : Prop :=
  ∃ connector, member.state.connector = some connector ∧ env.stop connector = .abort m

/-- What giving one member up comes to. -/
structure Member.Released (member : Member F) (env : Surroundings F) (o : Outcome Failure Unit)
    (st : State F) (j : Journal F) : Prop where
  /-- What it held is let go of. -/
  held : st.held = []
  /-- What it held is stopped, and no other connector. -/
  stops : stoppedIn j = member.state.held
  /-- It unwinds exactly in that stop. -/
  ending : o = .ok () ∧ env.StopsHeld member.state ∨ ∃ m, o = .abort m ∧ member.StopUnwinds env m

/-- Giving a member up stops its service if it holds a connector, and else does nothing. -/
theorem Member.exists_released (member : Member F) (env : Surroundings F) (next : Nat) :
    ∃ o st j, member.run (member.service.drop env) next =
        (o, { member with state := st }, next, j) ∧ member.Released env o st j := by
  rcases member.service.drop_landing env ⟨member.state, next⟩ with
    ⟨none_held, hdrop⟩ | ⟨o, st, j, _, landing, hdrop⟩
  · have hheld : member.state.held = [] := by
      rw [State.held, none_held]
      rfl
    refine ⟨.ok (), member.state, [], by rw [run, hdrop], hheld, hheld.symm, .inl ⟨rfl, ?_⟩⟩
    intro connector held
    cases none_held.symm.trans held
  · have hrun : member.run (member.service.drop env) next =
        (o, { member with state := st }, next,
          .notice (.droppedWhileHolding member.service.name) :: j) := by
      rw [run, hdrop]
    refine ⟨o, st, _, hrun, (landing.census 0).2, landing.stoppedIn_eq, ?_⟩
    rcases landing.ok_or_abort with rfl | ⟨m, rfl⟩
    · exact .inl ⟨rfl, landing.isAbort_eq_false_iff.mp rfl⟩
    · obtain ⟨connector, _, held, unwound, _⟩ := landing.of_abort
      exact .inr ⟨m, rfl, connector, held, unwound⟩

/-- The members reached and those left, if members are given up in order until one unwinds. -/
inductive UpToCut (env : Nat → Surroundings F) (place : Nat) :
    List (Member F) → List (Member F) → Option String → Prop
  /-- Every connector answers its stop. -/
  | whole {members : List (Member F)} (answer : StopsAnswer env place members) :
      UpToCut env place members [] none
  /-- A stop unwinds. -/
  | cut {before left : List (Member F)} {member : Member F} {m : String}
      (answer : StopsAnswer env place before)
      (unwound : member.StopUnwinds (env (place + before.length)) m) :
      UpToCut env place (before ++ [member]) left (some m)

/-- The members reached and those left, if a group is given up, and how that ends. -/
inductive GivenUp (env : Nat → Surroundings F) (place : Nat) :
    List (Member F) → List (Member F) → Outcome Failure Unit → Prop
  /-- Every connector answers its stop. -/
  | whole {members : List (Member F)} (answer : StopsAnswer env place members) :
      GivenUp env place members [] (.ok ())
  /-- One stop unwinds, which is passed on when all members are given up. -/
  | unwound {before after : List (Member F)} {member : Member F} {m : String}
      (answer : StopsAnswer env place before)
      (cut : member.StopUnwinds (env (place + before.length)) m)
      (onward : StopsAnswer env (place + before.length + 1) after) :
      GivenUp env place (before ++ member :: after) [] (.abort m)
  /-- One stop unwinds, and a later one as well, which ends the process. -/
  | ended {before between left : List (Member F)} {member other : Member F} {m m' : String}
      (answer : StopsAnswer env place before)
      (cut : member.StopUnwinds (env (place + before.length)) m)
      (onward : StopsAnswer env (place + before.length + 1) between)
      (again : other.StopUnwinds (env (place + before.length + 1 + between.length)) m') :
      GivenUp env place (before ++ member :: (between ++ [other])) left
        (.abort Sweep.endOfProcess)

section Order

variable {env : Nat → Surroundings F} {place : Nat} {member : Member F}
  {reached left : List (Member F)}

/-- A member that answers is reached before the others. -/
theorem UpToCut.cons {abort : Option String} (stops : (env place).StopsHeld member.state)
    (h : UpToCut env (place + 1) reached left abort) :
    UpToCut env place (member :: reached) left abort := by
  cases h with
  | whole answer => exact .whole (stopsAnswer_cons.mpr ⟨stops, answer⟩)
  | @cut before _ other m answer unwound =>
    rw [place_cons place member] at unwound
    exact .cut (stopsAnswer_cons.mpr ⟨stops, answer⟩) unwound

/-- A member that answers is given up before the others. -/
theorem GivenUp.cons {o : Outcome Failure Unit} (stops : (env place).StopsHeld member.state)
    (h : GivenUp env (place + 1) reached left o) :
    GivenUp env place (member :: reached) left o := by
  cases h with
  | whole answer => exact .whole (stopsAnswer_cons.mpr ⟨stops, answer⟩)
  | unwound answer cut onward =>
    rw [place_cons place member] at cut onward
    exact .unwound (stopsAnswer_cons.mpr ⟨stops, answer⟩) cut onward
  | ended answer cut onward again =>
    rw [place_cons place member] at cut onward again
    exact .ended (stopsAnswer_cons.mpr ⟨stops, answer⟩) cut onward again

/-- After a member that unwinds the others are reached up to one that unwinds as well. -/
theorem GivenUp.of_unwound {m : String} {abort : Option String}
    (unwound : member.StopUnwinds (env place) m)
    (h : UpToCut env (place + 1) reached left abort) :
    GivenUp env place (member :: reached) left
      (.abort (abort.elim m fun _ => Sweep.endOfProcess)) := by
  cases h with
  | whole answer => exact .unwound (.nil _ _) unwound answer
  | cut answer again => exact .ended (.nil _ _) unwound answer again

end Order

/-- A sweep over members has stopped what those held that it reached, and the others hold what they
held. -/
structure Sweep.Releases {α : Type} (sweep : Sweep F α) (reached left : List (Member F)) :
    Prop where
  /-- What was held is stopped in order. -/
  stops : stoppedIn sweep.journal = heldBy reached
  /-- What is held was held before. -/
  held : heldBy sweep.members = heldBy left

/-- A member that is given up is reached before the others. -/
theorem Sweep.Releases.cons {env : Surroundings F} {member : Member F} {o : Outcome Failure Unit}
    {st : State F} {j : Journal F} {later : Sweep F Unit} {reached left : List (Member F)}
    (released : member.Released env o st j) (h : later.Releases reached left)
    (results : List (Except Failure Unit)) (abort : Option String) :
    Releases ⟨results, abort, { member with state := st } :: later.members, later.next,
      j ++ later.journal⟩ (member :: reached) left where
  stops := by rw [stoppedIn_append, released.stops, h.stops, heldBy_cons]
  held := by rw [heldBy_cons, released.held, h.held, List.nil_append]

/-- Members are given up in order, up to one that unwinds. -/
theorem dropForward_upToCut (env : Nat → Surroundings F) (place next : Nat)
    (members : List (Member F)) :
    let sweep := Sweep.forward (fun place s => s.drop (env place)) place next members
    ∃ reached left, members = reached ++ left ∧ UpToCut env place reached left sweep.abort ∧
      sweep.Releases reached left := by
  induction members generalizing place with
  | nil => exact ⟨[], [], rfl, .whole (.nil _ _), rfl, rfl⟩
  | cons member rest ih =>
    obtain ⟨o, st, j, hrun, released⟩ := member.exists_released (env place) next
    obtain ⟨reached, left, rfl, upToCut, releases⟩ := ih (place + 1)
    rw [Sweep.forward, hrun]
    rcases released.ending with ⟨rfl, stops⟩ | ⟨m, rfl, unwound⟩
    · exact ⟨member :: reached, left, rfl, upToCut.cons stops, releases.cons released _ _⟩
    · refine ⟨[member], reached ++ left, rfl, .cut (.nil _ _) unwound, ?_, ?_⟩
      · simpa using released.stops
      · simp [released.held]

/-- Members are given up in order, also after one that unwinds. -/
theorem dropThroughout_givenUp (env : Nat → Surroundings F) (place next : Nat)
    (members : List (Member F)) :
    let sweep := Sweep.throughout (fun place s => s.drop (env place)) place next members
    ∃ reached left, members = reached ++ left ∧
      GivenUp env place reached left (sweep.abort.elim (.ok ()) .abort) ∧
      sweep.Releases reached left := by
  induction members generalizing place with
  | nil => exact ⟨[], [], rfl, .whole (.nil _ _), rfl, rfl⟩
  | cons member rest ih =>
    obtain ⟨o, st, j, hrun, released⟩ := member.exists_released (env place) next
    rw [Sweep.throughout, hrun]
    rcases released.ending with ⟨rfl, stops⟩ | ⟨m, rfl, unwound⟩
    · obtain ⟨reached, left, rfl, givenUp, releases⟩ := ih (place + 1)
      exact ⟨member :: reached, left, rfl, givenUp.cons stops, releases.cons released _ _⟩
    · -- From here on the next stop that unwinds is the last thing that happens.
      obtain ⟨reached, left, rfl, upToCut, releases⟩ :=
        dropForward_upToCut env (place + 1) next rest
      exact ⟨member :: reached, left, rfl, .of_unwound unwound upToCut,
        releases.cons released _ _⟩

/-- Giving a group up is giving up its members, and it unwinds exactly if that does. -/
theorem Group.dropAll_eq (group : Group F) (env : Nat → Surroundings F) :
    let sweep :=
      Sweep.throughout (fun place s => s.drop (env place)) 0 group.next group.members
    group.dropAll env = (sweep.abort.elim (.ok ()) .abort, sweep.group, sweep.journal) := by
  unfold Group.dropAll
  cases habort : (Sweep.throughout (fun place s => s.drop (env place)) 0 group.next
    group.members).abort <;> simp [habort]

/-- Giving a group up stops what the services held that it reaches, and the others hold what they
held. -/
theorem Group.exists_givenUp (group : Group F) (env : Nat → Surroundings F) :
    ∃ reached left, group.members = reached ++ left ∧
      GivenUp env 0 reached left (group.dropAll env).1 ∧
      stoppedIn (group.dropAll env).2.2 = heldBy reached ∧
      heldBy (group.dropAll env).2.1.members = heldBy left := by
  obtain ⟨reached, left, hsplit, givenUp, releases⟩ :=
    dropThroughout_givenUp env 0 group.next group.members
  rw [group.dropAll_eq env]
  exact ⟨reached, left, hsplit, givenUp, releases.stops, releases.held⟩

/-- Whatever happened to a group, giving it up stops, in order, what the services hold that it
reaches, and it reaches all of them unless the process ends. No connector is stopped twice, and if
all services are reached, every connector that was ever built was stopped. -/
theorem dropAll_stops_once (services : List (Service F)) (requests : List (GroupRequest F))
    (env : Nat → Surroundings F) :
    let run := Group.run services requests
    let given := run.group.dropAll env
    let stops := stoppedIn (run.journal ++ given.2.2)
    ∃ reached left, run.group.members = reached ++ left ∧ GivenUp env 0 reached left given.1 ∧
      stoppedIn given.2.2 = heldBy reached ∧ heldBy given.2.1.members = heldBy left ∧
      (stops.map Instance.number).Nodup ∧ (left = [] → stops.Perm (builtIn run.journal)) := by
  intro run given stops
  obtain ⟨reached, left, hsplit, givenUp, hstops, hleft⟩ := run.group.exists_givenUp env
  refine ⟨reached, left, hsplit, givenUp, hstops, hleft, ?_⟩
  have hall : stops ++ heldBy left = stoppedIn run.journal ++ heldBy run.group.members := by
    rw [hsplit, heldBy_append, ← hstops, ← List.append_assoc, ← stoppedIn_append]
  have census := run_census services requests
  constructor
  · have nodup := census.nodup.2
    rw [← hall, List.map_append] at nodup
    exact (List.nodup_append.mp nodup).1
  · intro hnone
    have kept := census.kept
    rw [← hall, hnone] at kept
    simpa using kept

/-- Of three connectors that unwind in their stops the last one is not stopped: the process ends
with the second. -/
example :
    let group := (Group.run (List.replicate 3 Service.specimen)
      [.startAll fun _ => (Request.scripted .start).env]).group
    let given := group.dropAll fun _ => (Request.scripted .stop { stop := .abort "stuck" }).env
    given.1 = .abort Sweep.endOfProcess ∧ stoppedIn given.2.2 = [⟨"a", 1⟩, ⟨"a", 2⟩] ∧
      heldBy given.2.1.members = [⟨"a", 3⟩] := by
  decide +kernel

end ConnectorLifecycle
