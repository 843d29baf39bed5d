import ConnectorLifecycle.Proofs.Group.Census
import ConnectorLifecycle.Proofs.Isolation
import ConnectorLifecycle.Proofs.PhasePath

/-!
# Starting all services of a group

Among collaborators that do not unwind, a start of all services visits every service once. Each
visit ends with a service that runs, whose handle is returned, or with one that failed, whose
failure is reported and returned; so the report tells exactly what the services come to. A visit
knows of the others only how many connectors were built before it. So what one service meets never
shows in another one, but for the number of its connector.
-/

namespace ConnectorLifecycle

variable {F : Type}

/-- What came of starting one member of a group. -/
structure Visit (F : Type) where
  /-- The number of the next connector when its turn came. -/
  number : Nat
  /-- How the start ended. -/
  outcome : Outcome Failure Handle
  /-- The member afterwards. -/
  member : Member F
  /-- What happened meanwhile. -/
  journal : Journal F

namespace Visit

/-- The handle of a member that runs. -/
def handle? (visit : Visit F) : Option Handle :=
  match visit.outcome with
  | .ok handle => some handle
  | .error _ | .abort _ => none

/-- The failure of a member that does not. -/
def failure? (visit : Visit F) : Option Failure :=
  match visit.outcome with
  | .error f => some f
  | .ok _ | .abort _ => none

/-- A visit at which connectors have other numbers. -/
def renumber (ρ : Nat → Nat) (visit : Visit F) : Visit F where
  number := ρ visit.number
  outcome := visit.outcome.map (Handle.renumber ρ)
  member := { visit.member with state := visit.member.state.renumber ρ }
  journal := visit.journal.map (Entry.renumber ρ)

end Visit

/-- Start members one after the other, each among the collaborators of its place. -/
def visitsFrom (env : Nat → Surroundings F) : Nat → Nat → List (Member F) → List (Visit F)
  | _, _, [] => []
  | place, next, member :: rest =>
    let (outcome, member', next', journal) :=
      member.run (Group.startMember (env place) member.service) next
    ⟨next, outcome, member', journal⟩ :: visitsFrom env (place + 1) next' rest

/-- The visits of a start of all services. -/
def Group.visits (group : Group F) (env : Nat → Surroundings F) : List (Visit F) :=
  visitsFrom env 0 group.next group.members

/-- The service and the failure that an entry reports of a group's start. -/
def Entry.refusal? : Entry F → Option (String × Failure)
  | .notice (.memberFailed s f) => some (s, f)
  | _ => none

/-- The services that a journal reports as not started, with their failures, in order. -/
def refusalsIn (journal : Journal F) : List (String × Failure) :=
  journal.filterMap Entry.refusal?

@[simp] theorem refusalsIn_append (j j' : Journal F) :
    refusalsIn (j ++ j') = refusalsIn j ++ refusalsIn j' := List.filterMap_append

section Launch

variable {s : Service F} {env : Surroundings F} {n : Nat} {st st' : State F}
  {sit sit' : Situation F} {j : Journal F} {o : Outcome Failure Handle}

/-- Entries that tell of the connector or of the phase are no group's report. -/
theorem refusalsIn_of_inner (inner : ∀ entry ∈ j, entry.isInner = true) : refusalsIn j = [] := by
  refine List.filterMap_eq_nil_iff.mpr fun entry hmem => ?_
  have := inner entry hmem
  revert this
  cases entry with
  | call => exact fun _ => rfl
  | notice notice => cases notice <;> simp [Entry.isInner, Entry.refusal?]

/-- A new attempt reports nothing for the group. -/
theorem Attempt.refusalsIn_eq (h : Attempt s env n o sit j) : refusalsIn j = [] := by
  cases h with
  | up ascent =>
    rw [refusalsIn_append, refusalsIn_of_inner ascent.isInner]
    rfl
  | cut ascent => exact refusalsIn_of_inner ascent.isInner
  | failed ascent down | cutDown ascent down =>
    simp only [refusalsIn_append, refusalsIn_of_inner ascent.isInner,
      refusalsIn_of_inner down.isInner]
    rfl

/-- A repair reports nothing for the group. -/
theorem Recovery.refusalsIn_eq {o : Outcome Failure Unit} (h : Recovery s env st o st' j) :
    refusalsIn j = [] := by
  cases h with
  | needless => rfl
  | mended interrupted down | cut interrupted down =>
    have hdown := refusalsIn_of_inner down.isInner
    exact hdown

/-- A start reports nothing for the group. -/
theorem Launch.refusalsIn_eq (h : Launch s env sit o sit' j) : refusalsIn j = [] := by
  cases h with
  | shown => rfl
  | cut idle repair => exact repair.refusalsIn_eq
  | anew idle repair ready attempt =>
    rw [refusalsIn_append, refusalsIn_append, repair.refusalsIn_eq, attempt.refusalsIn_eq]
    rfl

end Launch

/-- A visit whose member runs afterwards, or failed as it was reported. -/
inductive Visit.Settled : Visit F → Prop
  /-- The member runs, and its handle is the one that is returned. -/
  | up {number : Nat} {handle : Handle} {member : Member F} {j : Journal F}
      (runs : member.state.phase = .running)
      (shown : member.service.runningHandle? member.state = some handle)
      (quiet : refusalsIn j = []) : Settled ⟨number, .ok handle, member, j⟩
  /-- The member failed and holds nothing, and the failure is reported once. -/
  | failed {number : Nat} {f : Failure} {member : Member F} {j : Journal F}
      (down : member.state = { phase := .failed })
      (named : f.service? = some member.service.name)
      (told : refusalsIn j = [(member.service.name, f)]) : Settled ⟨number, .error f, member, j⟩

/-- Every start of a member that does not unwind settles it. -/
theorem Launch.settled {member : Member F} {env : Surroundings F} {n : Nat}
    {o : Outcome Failure Handle} {sit : Situation F} {j : Journal F}
    (h : Launch member.service env ⟨member.state, n⟩ o sit j) (goes : o.isAbort = false) :
    Visit.Settled
      ⟨n, o, { member with state := sit.state }, j ++ member.service.refusal o⟩ := by
  have hquiet := h.refusalsIn_eq
  cases o with
  | ok handle =>
    refine .up h.of_ok.1 h.of_ok.2 ?_
    rw [refusalsIn_append, hquiet]
    rfl
  | error f =>
    refine .failed h.of_error.1 h.of_error.2 ?_
    rw [refusalsIn_append, hquiet]
    rfl
  | abort m => cases goes

/-- A handle is reported in front of those of later members. -/
theorem Sweep.report_cons_ok (handle : Handle) (member : Member F) (j : Journal F)
    (later : Sweep F Handle) :
    (Sweep.cons (.ok handle) member j later).report =
      ⟨handle :: later.report.started, later.report.failed⟩ := rfl

/-- A failure is reported in front of those of later members. -/
theorem Sweep.report_cons_error (f : Failure) (member : Member F) (j : Journal F)
    (later : Sweep F Handle) :
    (Sweep.cons (.error f) member j later).report =
      ⟨later.report.started, f :: later.report.failed⟩ := rfl

section Visits

variable {env : Nat → Surroundings F} {place next : Nat} {members : List (Member F)}
  {sweep : Sweep F Handle}

/-- The first member is visited, and then the others. -/
theorem visitsFrom_cons {member : Member F} {o : Outcome Failure Handle} {sit : Situation F}
    {j : Journal F} (launch : Launch member.service (env place) ⟨member.state, next⟩ o sit j)
    (rest : List (Member F)) :
    visitsFrom env place next (member :: rest) =
      ⟨next, o, { member with state := sit.state }, j ++ member.service.refusal o⟩ ::
        visitsFrom env (place + 1) sit.next rest := by
  rw [visitsFrom, launch.run_startMember]

/-- Each visit is a start of the member of its place. -/
theorem exists_launch_of_visit (sound : ∀ member ∈ members, member.Sound true) {i : Nat}
    {visit : Visit F} (h : (visitsFrom env place next members)[i]? = some visit) :
    ∃ member n o sit j, members[i]? = some member ∧ next ≤ n ∧
      Launch member.service (env (place + i)) ⟨member.state, n⟩ o sit j ∧
      visit = ⟨n, o, { member with state := sit.state }, j ++ member.service.refusal o⟩ := by
  induction members generalizing place next i with
  | nil => simp [visitsFrom] at h
  | cons member rest ih =>
    obtain ⟨o, sit, j, launch⟩ := exists_launch member.service (env place) ⟨member.state, next⟩
      (sound member List.mem_cons_self).eq_clear
    rw [visitsFrom_cons launch] at h
    cases i with
    | zero =>
      cases h
      exact ⟨member, next, o, sit, j, rfl, Nat.le_refl _, launch, rfl⟩
    | succ i =>
      obtain ⟨other, n, o', sit', j', hmem, hle, launch', hvisit⟩ :=
        ih (fun other hmem => sound other (List.mem_cons_of_mem _ hmem)) h
      have hnext : next ≤ sit.next := Nat.le.intro launch.census.next.symm
      rw [Nat.add_assoc, Nat.add_comm 1] at launch'
      exact ⟨other, n, o', sit', j', hmem, Nat.le_trans hnext hle, launch', hvisit⟩

/-- Among calm collaborators no start of a member unwinds. -/
theorem Muster.whole_of_calm (h : Muster env place next members sweep)
    (calm : ∀ place, (env place).Calm) : sweep.abort = none := by
  induction h with
  | nil => rfl
  | cut launch => cases launch.isAbort_of_calm (calm _)
  | up _ _ ih | failed _ _ ih => exact ih

/-- What a start of members that does not unwind comes to is what the visits come to. -/
theorem Muster.eq_visits (h : Muster env place next members sweep) (whole : sweep.abort = none) :
    let visits := visitsFrom env place next members
    sweep.members = visits.map Visit.member ∧ sweep.journal = visits.flatMap Visit.journal ∧
      sweep.report = ⟨visits.filterMap Visit.handle?, visits.filterMap Visit.failure?⟩ := by
  induction h with
  | nil => exact ⟨rfl, rfl, rfl⟩
  | cut => cases whole
  | @up place next member rest handle sit j later launch _ ih =>
    obtain ⟨hmembers, hjournal, hreport⟩ := ih whole
    rw [visitsFrom_cons launch]
    refine ⟨congrArg _ hmembers, ?_, ?_⟩
    · simp [Sweep.cons, Service.refusal, hjournal]
    · rw [Sweep.report_cons_ok, hreport]
      rfl
  | @failed place next member rest f sit j later launch _ ih =>
    obtain ⟨hmembers, hjournal, hreport⟩ := ih whole
    rw [visitsFrom_cons launch]
    refine ⟨congrArg _ hmembers, ?_, ?_⟩
    · simp [Sweep.cons, Service.refusal, hjournal]
    · rw [Sweep.report_cons_error, hreport]
      rfl

end Visits

/-- The handle of a member that runs. -/
def Member.handle? (member : Member F) : Option Handle :=
  member.service.runningHandle? member.state

/-- A member failed. -/
def Member.hasFailed (member : Member F) : Bool := member.state.phase = .failed

/-- The names of the members that failed, in order. -/
def failedNames (members : List (Member F)) : List String :=
  (members.filter Member.hasFailed).map fun member => member.service.name

/-- A report of the start of members, and what a journal says of it: the handles are those of the
members that run, the failures those of the members that failed, both in order, there is no other
member, and every failure is reported once. -/
structure StartReport.Describes (report : StartReport) (members : List (Member F))
    (journal : Journal F) : Prop where
  /-- Every member is started or failed. -/
  total : report.started.length + report.failed.length = members.length
  /-- A member runs and has a handle, or failed and holds nothing. -/
  settled : ∀ member ∈ members,
    (member.state.phase = .running ∧ member.handle?.isSome = true) ∨
      member.state = { phase := .failed }
  /-- The handles are those of the members that run. -/
  started : report.started = members.filterMap Member.handle?
  /-- The failures name the members that failed. -/
  failed : report.failed.map Failure.service? = (failedNames members).map some
  /-- Each failure is reported once, in order. -/
  refusals : refusalsIn journal = (failedNames members).zip report.failed

/-- A member that runs adds its handle to a report. -/
theorem StartReport.Describes.cons_up {report : StartReport} {member : Member F}
    {members : List (Member F)} {j j' : Journal F} {handle : Handle}
    (runs : member.state.phase = .running) (shown : member.handle? = some handle)
    (quiet : refusalsIn j = []) (later : report.Describes members j') :
    (StartReport.mk (handle :: report.started) report.failed).Describes (member :: members)
      (j ++ j') := by
  have hnames : failedNames (member :: members) = failedNames members := by
    have hfailed : member.hasFailed = false := by simp [Member.hasFailed, runs]
    simp [failedNames, hfailed]
  constructor
  case total =>
    have htotal := later.total
    simp only [List.length_cons]
    omega
  case settled =>
    intro other hmem
    rcases List.mem_cons.mp hmem with rfl | hmem
    · exact .inl ⟨runs, by rw [shown]; rfl⟩
    · exact later.settled other hmem
  case started => rw [List.filterMap_cons_some shown, ← later.started]
  case failed => rw [hnames, later.failed]
  case refusals => rw [refusalsIn_append, quiet, hnames, List.nil_append, later.refusals]

/-- A member that failed adds its failure to a report. -/
theorem StartReport.Describes.cons_failed {report : StartReport} {member : Member F}
    {members : List (Member F)} {j j' : Journal F} {f : Failure}
    (down : member.state = { phase := .failed })
    (named : f.service? = some member.service.name)
    (told : refusalsIn j = [(member.service.name, f)]) (later : report.Describes members j') :
    (StartReport.mk report.started (f :: report.failed)).Describes (member :: members)
      (j ++ j') := by
  have hnames : failedNames (member :: members) = member.service.name :: failedNames members := by
    have hfailed : member.hasFailed = true := by simp [Member.hasFailed, down]
    simp [failedNames, hfailed]
  have hidle : member.handle? = none := by
    rw [Member.handle?, down]
    rfl
  constructor
  case total =>
    have htotal := later.total
    simp only [List.length_cons]
    omega
  case settled =>
    intro other hmem
    rcases List.mem_cons.mp hmem with rfl | hmem
    · exact .inr down
    · exact later.settled other hmem
  case started => rw [List.filterMap_cons_none hidle, ← later.started]
  case failed => rw [hnames, List.map_cons, List.map_cons, named, later.failed]
  case refusals => rw [refusalsIn_append, told, hnames, later.refusals]; rfl

/-- What tells of no member's failure does not matter to a report. -/
theorem StartReport.Describes.append {report : StartReport} {members : List (Member F)}
    {j j' : Journal F} (h : report.Describes members j) (quiet : refusalsIn j' = []) :
    report.Describes members (j ++ j') :=
  { h with refusals := by rw [refusalsIn_append, quiet, List.append_nil, h.refusals] }

/-- Settled visits are described by their handles and failures. -/
theorem describes_of_settled {visits : List (Visit F)}
    (settled : ∀ visit ∈ visits, visit.Settled) :
    (StartReport.mk (visits.filterMap Visit.handle?) (visits.filterMap Visit.failure?)).Describes
      (visits.map Visit.member) (visits.flatMap Visit.journal) := by
  induction visits with
  | nil => exact ⟨rfl, fun _ hmem => absurd hmem List.not_mem_nil, rfl, rfl, rfl⟩
  | cons visit rest ih =>
    have later := ih fun other hmem => settled other (List.mem_cons_of_mem _ hmem)
    cases settled visit List.mem_cons_self with
    | up runs shown quiet => exact later.cons_up runs shown quiet
    | failed down named told => exact later.cons_failed down named told

/-- What a start of all services comes to if nothing unwinds. -/
structure Group.Started (group : Group F) (env : Nat → Surroundings F) (report : StartReport)
    (group' : Group F) (journal : Journal F) : Prop where
  /-- Every service is visited once, in order. -/
  visited : (group.visits env).map (fun visit => visit.member.service) =
    group.members.map Member.service
  /-- The group is left as the visits leave its members. -/
  members : group'.members = (group.visits env).map Visit.member
  /-- What the visits come to is returned. -/
  returned : report =
    ⟨(group.visits env).filterMap Visit.handle?, (group.visits env).filterMap Visit.failure?⟩
  /-- One visit happens after the other, and the numbers of services are reported at last. -/
  history : journal = (group.visits env).flatMap Visit.journal ++
    [.notice (.groupStarted report.started.length group.members.length)]
  /-- The report says what the services came to. -/
  described : report.Describes group'.members journal
  /-- A service that runs already is left alone, and nobody is called for it. -/
  running : ∀ (i : Nat) member visit, group.members[i]? = some member →
    (group.visits env)[i]? = some visit → member.state.phase = .running →
    visit.member = member ∧ visit.journal = [.notice (.alreadyRunning member.service.name)]
  /-- A service that the collaborators answer alike in another start of all services is visited
  alike, whatever they answer the others. -/
  isolated : ∀ (env' : Nat → Surroundings F) (i : Nat) member visit visit',
    group.members[i]? = some member → (group.visits env)[i]? = some visit →
    (group.visits env')[i]? = some visit' →
    member.service.Alike member.state (env i) visit.number (env' i) visit'.number →
    visit' = visit.renumber (renew visit.number visit'.number)

/-- Every service of a group stands where requests to it lead, while the others are served too. -/
def Group.Reachable (group : Group F) : Prop :=
  ∀ member ∈ group.members, member.service.Reachable ⟨member.state, group.next⟩

section Reachable

variable {group : Group F} {env : Nat → Surroundings F}

/-- Members that stand where requests to their services lead are sound. -/
theorem sound_of_reachable
    (reachable : group.Reachable) :
    ∀ member ∈ group.members, member.Sound true := by
  intro member hmem
  obtain ⟨⟨e, shape⟩, _⟩ := (reachable member hmem).sound
  exact ⟨e, nofun, shape⟩

/-- A visit of a member that runs only tells so. -/
theorem visit_of_running (sound : ∀ member ∈ group.members, member.Sound true) {i : Nat}
    {member : Member F} {visit : Visit F} (hmember : group.members[i]? = some member)
    (hvisit : (group.visits env)[i]? = some visit) (runs : member.state.phase = .running) :
    visit.member = member ∧ visit.journal = [.notice (.alreadyRunning member.service.name)] := by
  obtain ⟨member', n, o, sit, j, hmember', _, launch, rfl⟩ := exists_launch_of_visit sound hvisit
  obtain rfl : member = member' := Option.some.inj (hmember.symm.trans hmember')
  obtain ⟨e, _, shape⟩ := sound member (List.mem_of_getElem? hmember)
  obtain ⟨handle, rfl, rfl, rfl⟩ := launch.of_running shape runs
  exact ⟨rfl, rfl⟩

/-- Two visits of a member whose collaborators answer alike are alike. -/
theorem visit_alike
    (reachable : group.Reachable)
    {env' : Nat → Surroundings F} {i : Nat} {member : Member F} {visit visit' : Visit F}
    (hmember : group.members[i]? = some member) (hvisit : (group.visits env)[i]? = some visit)
    (hvisit' : (group.visits env')[i]? = some visit')
    (alike : member.service.Alike member.state (env i) visit.number (env' i) visit'.number) :
    visit' = visit.renumber (renew visit.number visit'.number) := by
  have sound := sound_of_reachable reachable
  obtain ⟨member₁, n, o, sit, j, hmember₁, hle, launch, rfl⟩ :=
    exists_launch_of_visit sound hvisit
  obtain ⟨member₂, n', o', sit', j', hmember₂, _, launch', rfl⟩ :=
    exists_launch_of_visit sound hvisit'
  obtain rfl : member = member₁ := Option.some.inj (hmember.symm.trans hmember₁)
  obtain rfl : member = member₂ := Option.some.inj (hmember.symm.trans hmember₂)
  rw [Nat.zero_add] at launch launch'
  -- The first run's start, read with the other number, is a start among the second run's
  -- collaborators, and a start has only one end.
  have below : member.state.Below n :=
    (reachable member (List.mem_of_getElem? hmember)).sound.2.mono hle
  have again := (launch.alike alike below).eval.symm.trans launch'.eval
  obtain ⟨rfl, rfl, rfl⟩ : o.map (Handle.renumber (renew n n')) = o' ∧
      sit.renumber (renew n n') = sit' ∧ j.map (Entry.renumber (renew n n')) = j' := by
    simpa using again
  have hrefusal : (member.service.refusal o).map (Entry.renumber (renew n n')) =
      member.service.refusal (o.map (Handle.renumber (renew n n'))) := by
    cases o <;> rfl
  rw [Visit.renumber, List.map_append, hrefusal, renew_self]
  rfl

end Reachable

/-- Along a course every service stays where requests to it lead. -/
theorem Course.reachable {group group' : Group F} {cut : Bool} {j : Journal F}
    (h : Course group cut group' j)
    (reachable : group.Reachable) : group'.Reachable := by
  induction h with
  | stay => exact reachable
  | report _ _ ih => exact ih
  | @served cut before after member next j request o sit j' _ served ih =>
    intro other hmem
    rcases mem_of_mem_replaced hmem with rfl | hmem
    · have now := (ih member List.mem_append_cons_self).served request
      rwa [served.serve_situation] at now
    · exact (ih other hmem).later (Nat.le.intro served.census.next.symm)

/-- After every history of a group every service stands where requests to it lead. -/
theorem run_reachable (services : List (Service F)) (requests : List (GroupRequest F)) :
    (Group.run services requests).group.Reachable := by
  refine (run_course services requests).reachable fun member hmem => ?_
  obtain ⟨service, _, rfl⟩ := List.mem_map.mp hmem
  exact .built _

/-- Whatever the services of a group have come to, and whatever went wrong before, a start of all of
them among collaborators that do not unwind returns one handle or one failure for each: the handles
of the services that run, in order, and the failures of the others, each reported once. A service
that runs already is left alone. What a service comes to depends on nothing but itself and what its
own collaborators answer, up to the number of its connector: in particular a service that meets
something else changes nothing for the others. -/
theorem startAll_isolates (group : Group F) (env : Nat → Surroundings F)
    (reachable : group.Reachable)
    (calm : ∀ place, (env place).Calm) :
    ∃ report group' journal, group.startAll env = (.ok report, group', journal) ∧
      group.Started env report group' journal := by
  have sound := sound_of_reachable reachable
  obtain ⟨sweep, muster, heval⟩ := Group.exists_muster sound env
  have whole := muster.whole_of_calm calm
  rw [whole] at heval
  obtain ⟨hmembers, hjournal, hreport⟩ := muster.eq_visits whole
  -- Nothing unwinds, so each visit is a start that ended, and the report collects these ends.
  have settled : ∀ visit ∈ group.visits env, visit.Settled := by
    intro visit hmem
    obtain ⟨i, hvisit⟩ := List.getElem?_of_mem hmem
    obtain ⟨member, n, o, sit, j, _, _, launch, rfl⟩ := exists_launch_of_visit sound hvisit
    exact launch.settled (launch.isAbort_of_calm (calm _))
  have described := describes_of_settled settled
  refine ⟨_, _, _, heval, ?_⟩
  exact
    { visited := by
        have hservices := (muster.course []).services_eq
        rw [List.nil_append, List.nil_append, hmembers, List.map_map] at hservices
        exact hservices
      members := hmembers
      returned := hreport
      history := by rw [hjournal]; rfl
      described := by
        rw [Sweep.group, hmembers, hjournal, hreport]
        exact described.append rfl
      running := fun i member visit => visit_of_running sound
      isolated := fun env' i member visit visit' => visit_alike reachable }

/-- A service that runs already, one whose factory builds nothing, and one whose last start
unwound. -/
theorem startAll_isolates_failing_factory :
    let third := { Service.specimen with name := "admin", kind := "admin", factory := "c" }
    let everything := Surroundings.building fun _ => true
    let group := (Group.run [Service.specimen, Service.secondSpecimen, third]
      [.single 0 ⟨.start, everything⟩,
        .single 2 ⟨.start, { everything with start := fun _ _ _ => .abort "start blew up" }⟩]).group
    let env := fun _ : Nat => Surroundings.building fun label => label ≠ "b"
    group.Reachable ∧ (∀ place, (env place).Calm) ∧
      group.members.map (fun member => member.state.phase) = [.running, .created, .starting] ∧
      (group.startAll env).2.1.members.map (fun member => member.state.phase) =
        [.running, .failed, .running] ∧
      ∃ report group' journal, group.startAll env = (.ok report, group', journal) ∧
        group.Started env report group' journal := by
  intro third everything group env
  have reachable : group.Reachable := run_reachable _ _
  have calm : ∀ place, (env place).Calm := fun _ => Surroundings.calm_building _
  have before : group.members.map (fun member => member.state.phase) =
      [.running, .created, .starting] := by decide +kernel
  have after : (group.startAll env).2.1.members.map (fun member => member.state.phase) =
      [.running, .failed, .running] := by decide +kernel
  exact ⟨reachable, calm, before, after, startAll_isolates group env reachable calm⟩

end ConnectorLifecycle
