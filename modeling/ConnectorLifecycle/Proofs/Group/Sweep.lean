import ConnectorLifecycle.Group
import ConnectorLifecycle.Proofs.Shape

/-!
# How operations on all members end

`Muster` lists the ends of starting the members of a group, the first one first, and `Disband` those
of stopping them, the last one first. Each member adds one end of a start or of a stop, until one
unwinds and the members that come after it are not reached. Members whose states have one of the
shapes have exactly one such end for given answers.
-/

namespace ConnectorLifecycle

variable {F : Type}

/-- A member between two requests. Unless one of them may have been cut short, it is whole. -/
def Member.Sound (cut : Bool) (member : Member F) : Prop :=
  ∃ e, (cut = false → e = .whole) ∧ Shape member.service e member.state

/-- A member that holds something is not in a phase from which a start may begin. -/
theorem Member.Sound.eq_clear {cut : Bool} {member : Member F} (h : member.Sound cut)
    (ready : member.state.phase.canStart = true) :
    member.state = { phase := member.state.phase } := by
  obtain ⟨_, _, shape⟩ := h
  exact shape.eq_clear ready

/-- A member that is whole unless something unwound is sound whatever happened. -/
theorem Member.Sound.loosen {cut : Bool} {member : Member F} (h : member.Sound cut) :
    member.Sound true := by
  obtain ⟨e, _, shape⟩ := h
  exact ⟨e, nofun, shape⟩

/-- What a group reports of a member's start. -/
def Service.refusal (s : Service F) : Outcome Failure Handle → Journal F
  | .error f => [.notice (.memberFailed s.name f)]
  | .ok _ | .abort _ => []

/-- Starting a member is a start of its service, and a report if it fails. -/
theorem Launch.run_startMember {member : Member F} {env : Surroundings F} {n : Nat}
    {o : Outcome Failure Handle} {sit : Situation F} {j : Journal F}
    (h : Launch member.service env ⟨member.state, n⟩ o sit j) :
    member.run (Group.startMember env member.service) n =
      (o, { member with state := sit.state }, sit.next, j ++ member.service.refusal o) := by
  unfold Member.run Group.startMember
  cases o <;> simp [Step.bind_apply, Step.attempt_apply, h.eval, Service.refusal]

/-- Stopping a member is a stop of its service. -/
theorem Landing.run_stop {member : Member F} {env : Surroundings F} {o : Outcome Failure Unit}
    {st : State F} {j : Journal F} (h : Landing member.service env member.state o st j) (n : Nat) :
    member.run (member.service.stop env) n = (o, { member with state := st }, n, j) := by
  unfold Member.run
  rw [h.eval]

/-- The ends of starting members in order, each among the collaborators of its place. -/
inductive Muster (env : Nat → Surroundings F) :
    Nat → Nat → List (Member F) → Sweep F Handle → Prop
  /-- No member is left. -/
  | nil {place next : Nat} : Muster env place next [] ⟨[], none, [], next, []⟩
  /-- A start unwound, and the members after it are not reached. -/
  | cut {place next : Nat} {member : Member F} {rest : List (Member F)} {m : String}
      {sit : Situation F} {j : Journal F}
      (launch : Launch member.service (env place) ⟨member.state, next⟩ (.abort m) sit j) :
      Muster env place next (member :: rest)
        ⟨[], some m, { member with state := sit.state } :: rest, sit.next, j⟩
  /-- A member runs. -/
  | up {place next : Nat} {member : Member F} {rest : List (Member F)} {handle : Handle}
      {sit : Situation F} {j : Journal F} {later : Sweep F Handle}
      (launch : Launch member.service (env place) ⟨member.state, next⟩ (.ok handle) sit j)
      (onward : Muster env (place + 1) sit.next rest later) :
      Muster env place next (member :: rest)
        (.cons (.ok handle) { member with state := sit.state } j later)
  /-- A member failed, which is reported. -/
  | failed {place next : Nat} {member : Member F} {rest : List (Member F)} {f : Failure}
      {sit : Situation F} {j : Journal F} {later : Sweep F Handle}
      (launch : Launch member.service (env place) ⟨member.state, next⟩ (.error f) sit j)
      (onward : Muster env (place + 1) sit.next rest later) :
      Muster env place next (member :: rest)
        (.cons (.error f) { member with state := sit.state }
          (j ++ [.notice (.memberFailed member.service.name f)]) later)

/-- Starting the members of a group in order. -/
def Group.startSweep (env : Nat → Surroundings F) : Nat → Nat → List (Member F) → Sweep F Handle :=
  Sweep.forward fun place => Group.startMember (env place)

/-- Starting sound members ends in one of the listed ways. -/
theorem startSweep_muster (env : Nat → Surroundings F) (place next : Nat)
    (members : List (Member F)) (sound : ∀ member ∈ members, member.Sound true) :
    Muster env place next members (Group.startSweep env place next members) := by
  induction members generalizing place next with
  | nil => exact .nil
  | cons member rest ih =>
    have later := fun place next =>
      ih place next fun other h => sound other (List.mem_cons_of_mem _ h)
    obtain ⟨o, sit, j, launch⟩ := exists_launch member.service (env place) ⟨member.state, next⟩
      (sound member List.mem_cons_self).eq_clear
    have hrun := launch.run_startMember
    unfold Group.startSweep Sweep.forward
    rw [hrun]
    cases o with
    | ok handle => simpa [Service.refusal] using .up launch (later _ _)
    | error f => exact .failed launch (later _ _)
    | abort m => simpa [Service.refusal] using .cut launch

/-- A start of all services is a start of its members, and the count is reported unless one of
these unwinds. -/
theorem Group.exists_muster {group : Group F}
    (sound : ∀ member ∈ group.members, member.Sound true) (env : Nat → Surroundings F) :
    ∃ sweep, Muster env 0 group.next group.members sweep ∧
      group.startAll env = (sweep.abort.elim (.ok sweep.report) .abort, sweep.group,
        sweep.journal ++ sweep.abort.elim
          [.notice (.groupStarted sweep.report.started.length group.members.length)]
          fun _ => []) := by
  refine ⟨_, startSweep_muster env 0 group.next group.members sound, ?_⟩
  unfold Group.startAll startSweep
  cases habort : (Sweep.forward (fun place => startMember (env place)) 0 group.next
    group.members).abort <;> simp [habort]

/-- The ends of stopping members, the last one first, each among the collaborators of its place. -/
inductive Disband (env : Nat → Surroundings F) :
    Nat → Nat → List (Member F) → Sweep F Unit → Prop
  /-- No member is left. -/
  | nil {place next : Nat} : Disband env place next [] ⟨[], none, [], next, []⟩
  /-- A stop of a later member unwound, and this one is not reached. -/
  | unreached {place next : Nat} {member : Member F} {rest : List (Member F)}
      {later : Sweep F Unit} (first : Disband env (place + 1) next rest later)
      (unwound : later.abort.isSome = true) :
      Disband env place next (member :: rest) { later with members := member :: later.members }
  /-- The later members are stopped, and the stop of this one unwound. -/
  | cut {place next : Nat} {member : Member F} {rest : List (Member F)} {m : String}
      {st : State F} {j : Journal F} {later : Sweep F Unit}
      (first : Disband env (place + 1) next rest later) (whole : later.abort = none)
      (landing : Landing member.service (env place) member.state (.abort m) st j) :
      Disband env place next (member :: rest)
        ⟨later.results, some m, { member with state := st } :: later.members, later.next,
          later.journal ++ j⟩
  /-- The later members are stopped, and so is this one. -/
  | stopped {place next : Nat} {member : Member F} {rest : List (Member F)} {st : State F}
      {j : Journal F} {later : Sweep F Unit}
      (first : Disband env (place + 1) next rest later) (whole : later.abort = none)
      (landing : Landing member.service (env place) member.state (.ok ()) st j) :
      Disband env place next (member :: rest)
        ⟨later.results ++ [.ok ()], none, { member with state := st } :: later.members,
          later.next, later.journal ++ j⟩

/-- Stopping the members of a group, the last one first. -/
def Group.stopSweep (env : Nat → Surroundings F) : Nat → Nat → List (Member F) → Sweep F Unit :=
  Sweep.backward fun place s => s.stop (env place)

/-- Stopping members ends in one of the listed ways. -/
theorem stopSweep_disband (env : Nat → Surroundings F) (place next : Nat)
    (members : List (Member F)) :
    Disband env place next members (Group.stopSweep env place next members) := by
  induction members generalizing place with
  | nil => exact .nil
  | cons member rest ih =>
    obtain ⟨later, hlater⟩ : ∃ later, Group.stopSweep env (place + 1) next rest = later := ⟨_, rfl⟩
    -- The later members come first; only if none of them unwound is this one reached.
    have first := ih (place + 1)
    rw [hlater] at first
    unfold Group.stopSweep at hlater ⊢
    rw [Sweep.backward, hlater]
    cases habort : later.abort with
    | some m =>
      have unwound : later.abort.isSome = true := by rw [habort]; rfl
      have disband : Disband env place next (member :: rest) _ := .unreached first unwound
      simpa [habort] using disband
    | none =>
      obtain ⟨o, st, j, landing⟩ := exists_landing member.service (env place) member.state
      have hrun := landing.run_stop later.next
      rcases landing.ok_or_abort with rfl | ⟨m, rfl⟩
      · simpa [hrun] using Disband.stopped first habort landing
      · simpa [hrun] using Disband.cut first habort landing

/-- A stop of all services is a stop of its members, and it unwinds exactly if one of these does. -/
theorem Group.exists_disband (group : Group F) (env : Nat → Surroundings F) :
    ∃ sweep, Disband env 0 group.next group.members sweep ∧
      group.stopAll env = (sweep.abort.elim (.ok ()) .abort, sweep.group, sweep.journal) := by
  refine ⟨_, stopSweep_disband env 0 group.next group.members, ?_⟩
  unfold Group.stopAll stopSweep
  cases habort : (Sweep.backward (fun place s => s.stop (env place)) 0 group.next
    group.members).abort <;> simp [habort]

end ConnectorLifecycle
