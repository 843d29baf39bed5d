import ConnectorLifecycle.Proofs.Calm
import ConnectorLifecycle.Proofs.Group.Sweep

/-!
# Histories of a group

A group is asked to start or stop all its services, or one service of it is asked something.
Whatever is asked, and even if it unwinds, comes to a `Course`: one service after the other is
served from where it stands, and the group reports. So what serving one service keeps, every history
keeps, by induction on its course.
-/

namespace ConnectorLifecycle

variable {F : Type}

/-- What can be asked of a group. In an operation on all services every place has its own
collaborators. -/
inductive GroupRequest (F : Type) where
  /-- Start all services, in order. -/
  | startAll (env : Nat → Surroundings F)
  /-- Stop all services, the last one first. -/
  | stopAll (env : Nat → Surroundings F)
  /-- A request to the service of a place. -/
  | single (place : Nat) (request : Request F)

/-- What a client of a group gets. -/
inductive GroupReply where
  /-- What came of starting all services. -/
  | started (report : StartReport)
  /-- All services are stopped. -/
  | stopped
  /-- What one service replies. -/
  | single (reply : Reply)
  /-- There is no service of that place. -/
  | nobody
  deriving DecidableEq

/-- What came of one request to a group. -/
structure GroupTurn (F : Type) where
  /-- The request. -/
  request : GroupRequest F
  /-- How serving it ended. -/
  outcome : Outcome Failure GroupReply
  /-- What happened while it was served. -/
  journal : Journal F

/-- A group after some requests. -/
structure GroupRun (F : Type) where
  /-- Where it stands. -/
  group : Group F
  /-- What came of the requests, in order. -/
  turns : List (GroupTurn F) := []

namespace Group

/-- Serve a request to the service of a place. -/
def serveSingle (group : Group F) (place : Nat) (request : Request F) :
    Outcome Failure GroupReply × Group F × Journal F :=
  match group.members[place]? with
  | none => (.ok .nobody, group, [])
  | some member =>
    let (outcome, member', next, journal) := member.run (member.service.serve request) group.next
    (outcome.map .single, ⟨group.members.set place member', next⟩, journal)

/-- Serve a request. -/
def serve (group : Group F) : GroupRequest F → Outcome Failure GroupReply × Group F × Journal F
  | .startAll env =>
    let (outcome, group', journal) := group.startAll env
    (outcome.map .started, group', journal)
  | .stopAll env =>
    let (outcome, group', journal) := group.stopAll env
    (outcome.map fun _ => .stopped, group', journal)
  | .single place request => group.serveSingle place request

end Group

namespace GroupRun

/-- Serve one more request. -/
def extend (run : GroupRun F) (request : GroupRequest F) : GroupRun F :=
  let (outcome, group, journal) := run.group.serve request
  { group, turns := run.turns ++ [{ request, outcome, journal }] }

/-- All that happened during a run. -/
def journal (run : GroupRun F) : Journal F := run.turns.flatMap GroupTurn.journal

/-- A request of a run unwound. -/
def cut (run : GroupRun F) : Bool := run.turns.any fun turn => turn.outcome.isAbort

end GroupRun

/-- Build a group of services and serve requests in order. -/
def Group.run (services : List (Service F)) (requests : List (GroupRequest F)) : GroupRun F :=
  requests.foldl GroupRun.extend { group := Group.ofServices services }

/-- What the services of a group do one after the other, and whether one of them unwound. -/
inductive Course (group : Group F) : Bool → Group F → Journal F → Prop
  /-- Nothing happened yet. -/
  | stay : Course group false group []
  /-- The group reports something. -/
  | report {cut : Bool} {group' : Group F} {j : Journal F} (course : Course group cut group' j)
      (notice : Notice) : Course group cut group' (j ++ [.notice notice])
  /-- One service is served. -/
  | served {cut : Bool} {before after : List (Member F)} {member : Member F} {next : Nat}
      {j : Journal F} {request : Request F} {o : Outcome Failure Reply} {sit : Situation F}
      {j' : Journal F} (course : Course group cut ⟨before ++ member :: after, next⟩ j)
      (served : Served member.service ⟨member.state, next⟩ request o sit j') :
      Course group (cut || o.isAbort)
        ⟨before ++ { member with state := sit.state } :: after, sit.next⟩ (j ++ j')

/-- What is in a list with one item replaced is the new item or was there before. -/
theorem mem_of_mem_replaced {α : Type} {before after : List α} {a a' b : α}
    (h : b ∈ before ++ a' :: after) : b = a' ∨ b ∈ before ++ a :: after := by
  rw [List.mem_append, List.mem_cons] at h
  rw [List.mem_append, List.mem_cons]
  rcases h with h | rfl | h
  · exact .inr (.inl h)
  · exact .inl rfl
  · exact .inr (.inr (.inr h))

namespace Course

variable {group group' group'' : Group F} {cut cut' : Bool} {j j' : Journal F}

/-- A course goes on where another one ended. -/
theorem trans (h : Course group cut group' j) (h' : Course group' cut' group'' j') :
    Course group (cut || cut') group'' (j ++ j') := by
  induction h' with
  | stay => simpa using h
  | report _ notice ih =>
    rw [← List.append_assoc]
    exact ih.report notice
  | served _ served ih =>
    rw [← List.append_assoc, ← Bool.or_assoc]
    exact ih.served served

/-- One service being served is a course. -/
theorem single (before after : List (Member F)) {member : Member F} {next : Nat}
    {request : Request F} {o : Outcome Failure Reply} {sit : Situation F}
    (served : Served member.service ⟨member.state, next⟩ request o sit j) :
    Course ⟨before ++ member :: after, next⟩ o.isAbort
      ⟨before ++ { member with state := sit.state } :: after, sit.next⟩ j := by
  simpa using stay.served served

/-- The services of a group stay what they are. -/
theorem services_eq (h : Course group cut group' j) :
    group'.members.map Member.service = group.members.map Member.service := by
  induction h with
  | stay => rfl
  | report _ _ ih => exact ih
  | served _ _ ih => simpa using ih

/-- Sound members stay sound, and whole if nothing unwinds. -/
theorem sound (h : Course group cut group' j) {before : Bool}
    (sound : ∀ member ∈ group.members, member.Sound before) :
    ∀ member ∈ group'.members, member.Sound (before || cut) := by
  induction h with
  | stay => simpa using sound
  | report _ _ ih => exact ih
  | @served cut front back member next j request o sit j' _ served ih =>
    intro other hmem
    rcases mem_of_mem_replaced hmem with rfl | hmem
    · obtain ⟨e, whole, shape⟩ := ih member List.mem_append_cons_self
      refine ⟨_, fun h => ?_, shape.served served⟩
      obtain ⟨hbefore, hcut, hoff⟩ : before = false ∧ cut = false ∧ o.isAbort = false := by
        simpa using h
      rw [whole (by simp [hbefore, hcut])]
      simp [Ending.of, hoff]
    · obtain ⟨e, whole, shape⟩ := ih other hmem
      exact ⟨e, fun h => whole (by revert h; cases before <;> cases cut <;> simp), shape⟩

/-- A stop of one service carries a course on. -/
theorem landed {before after : List (Member F)} {member : Member F} {next : Nat}
    {env : Surroundings F} {o : Outcome Failure Unit} {st : State F}
    (h : Course group false ⟨before ++ member :: after, next⟩ j)
    (landing : Landing member.service env member.state o st j') :
    Course group o.isAbort ⟨before ++ { member with state := st } :: after, next⟩ (j ++ j') := by
  simpa using h.served (.landed landing)

/-- A course of the members after a first one is one of all of them. -/
theorem of_snoc {before rest rest' : List (Member F)} {member : Member F} {next next' : Nat}
    (h : Course ⟨before ++ [member] ++ rest, next⟩ cut ⟨before ++ [member] ++ rest', next'⟩ j) :
    Course ⟨before ++ member :: rest, next⟩ cut ⟨before ++ member :: rest', next'⟩ j := by
  rwa [← List.append_cons, ← List.append_cons] at h

end Course

/-- Starting members in order is a course, up to one that unwinds. -/
theorem Muster.course {env : Nat → Surroundings F} {place next : Nat} {members : List (Member F)}
    {sweep : Sweep F Handle} (h : Muster env place next members sweep)
    (before : List (Member F)) :
    Course ⟨before ++ members, next⟩ sweep.abort.isSome ⟨before ++ sweep.members, sweep.next⟩
      sweep.journal := by
  induction h generalizing before with
  | nil => exact .stay
  | cut launch => exact .single _ _ (.launched launch)
  | @up place next member rest handle sit j later launch _ ih =>
    have onward := (ih (before ++ [{ member with state := sit.state }])).of_snoc
    simpa [Sweep.cons, Outcome.map, Outcome.isAbort] using
      (Course.single _ _ (.launched launch)).trans onward
  | @failed place next member rest f sit j later launch _ ih =>
    have onward := (ih (before ++ [{ member with state := sit.state }])).of_snoc
    simpa [Sweep.cons, Outcome.map, Outcome.isAbort] using
      ((Course.single _ _ (.launched launch)).report
        (.memberFailed member.service.name f)).trans onward

/-- Stopping members, the last one first, is a course, up to one that unwinds. -/
theorem Disband.course {env : Nat → Surroundings F} {place next : Nat} {members : List (Member F)}
    {sweep : Sweep F Unit} (h : Disband env place next members sweep)
    (before : List (Member F)) :
    Course ⟨before ++ members, next⟩ sweep.abort.isSome ⟨before ++ sweep.members, sweep.next⟩
      sweep.journal := by
  induction h generalizing before with
  | nil => exact .stay
  | @unreached place next member rest later _ _ ih => exact (ih (before ++ [member])).of_snoc
  | @cut place next member rest m st j later _ whole landing ih =>
    have first := (ih (before ++ [member])).of_snoc
    rw [whole] at first
    exact first.landed landing
  | @stopped place next member rest st j later _ whole landing ih =>
    have first := (ih (before ++ [member])).of_snoc
    rw [whole] at first
    exact first.landed landing

namespace Group

variable {group : Group F}

/-- Starting all services is a course. -/
theorem startAll_course (sound : ∀ member ∈ group.members, member.Sound true)
    (env : Nat → Surroundings F) :
    Course group (group.startAll env).1.isAbort (group.startAll env).2.1
      (group.startAll env).2.2 := by
  obtain ⟨sweep, muster, heval⟩ := exists_muster sound env
  have course := muster.course []
  rw [heval]
  cases habort : sweep.abort with
  | some m =>
    rw [habort] at course
    rw [Option.elim_some, Option.elim_some, List.append_nil]
    exact course
  | none =>
    rw [habort] at course
    exact course.report _

/-- Stopping all services is a course. -/
theorem stopAll_course (group : Group F) (env : Nat → Surroundings F) :
    Course group (group.stopAll env).1.isAbort (group.stopAll env).2.1
      (group.stopAll env).2.2 := by
  obtain ⟨sweep, disband, heval⟩ := group.exists_disband env
  have course := disband.course []
  rw [heval]
  cases habort : sweep.abort <;> rw [habort] at course <;> exact course

/-- A request to one service is a course. -/
theorem serveSingle_course (sound : ∀ member ∈ group.members, member.Sound true) (place : Nat)
    (request : Request F) :
    Course group (group.serveSingle place request).1.isAbort (group.serveSingle place request).2.1
      (group.serveSingle place request).2.2 := by
  unfold serveSingle
  cases found : group.members[place]? with
  | none => exact .stay
  | some member =>
    obtain ⟨o, sit, j, heval, served⟩ := member.service.serve_served request
      ⟨member.state, group.next⟩ (sound member (List.mem_of_getElem? found)).eq_clear
    obtain ⟨members, next⟩ := group
    obtain ⟨hlt, rfl⟩ := List.getElem?_eq_some_iff.mp found
    -- A course serves a member between those before and after it, and `set` replaces one of a list.
    have hsplit : members = members.take place ++ members[place] :: members.drop (place + 1) := by
      rw [List.getElem_cons_drop, List.take_append_drop]
    have course := Course.single (members.take place) (members.drop (place + 1)) served
    rw [← hsplit] at course
    simpa [Member.run, heval, List.set_eq_take_append_cons_drop, hlt] using course

/-- Whatever is asked of a group whose services are sound is a course. -/
theorem serve_course (sound : ∀ member ∈ group.members, member.Sound true)
    (request : GroupRequest F) :
    Course group (group.serve request).1.isAbort (group.serve request).2.1
      (group.serve request).2.2 := by
  cases request with
  | startAll env => simpa [serve] using startAll_course sound env
  | stopAll env => simpa [serve] using stopAll_course group env
  | single place request => exact serveSingle_course sound place request

end Group

/-- Serving one more request extends the run by what comes of it. -/
theorem GroupRun.extend_eq (run : GroupRun F) (request : GroupRequest F) :
    run.extend request =
      { group := (run.group.serve request).2.1
        turns := run.turns ++
          [⟨request, (run.group.serve request).1, (run.group.serve request).2.2⟩] } := rfl

/-- What holds of a group just built and is kept by every request holds after every run. -/
theorem group_run_induction {services : List (Service F)} {motive : GroupRun F → Prop}
    (built : motive { group := Group.ofServices services })
    (served : ∀ run request, motive run → motive (run.extend request))
    (requests : List (GroupRequest F)) : motive (Group.run services requests) := by
  have folded : ∀ (requests : List (GroupRequest F)) (run : GroupRun F), motive run →
      motive (requests.foldl GroupRun.extend run) := by
    intro requests
    induction requests with
    | nil => exact fun _ h => h
    | cons request rest ih => exact fun run h => ih _ (served run request h)
  exact folded requests _ built

/-- A service that was never asked anything is whole. -/
theorem sound_ofServices (services : List (Service F)) :
    ∀ member ∈ (Group.ofServices services).members, member.Sound false := by
  intro member hmem
  obtain ⟨service, _, rfl⟩ := List.mem_map.mp hmem
  exact ⟨.whole, fun _ => rfl, .clear rfl⟩

/-- Every history of a group is one course from its services as they were built. -/
theorem run_course (services : List (Service F)) (requests : List (GroupRequest F)) :
    Course (Group.ofServices services) (Group.run services requests).cut
      (Group.run services requests).group (Group.run services requests).journal := by
  refine group_run_induction (motive := fun run =>
    Course (Group.ofServices services) run.cut run.group run.journal) .stay ?_ requests
  intro run request course
  have sound : ∀ member ∈ run.group.members, member.Sound true := fun member hmem =>
    (course.sound (sound_ofServices services) member hmem).loosen
  simpa [GroupRun.extend_eq, GroupRun.cut, GroupRun.journal] using
    course.trans (Group.serve_course sound request)

/-- After every history every service is sound, and whole if nothing unwound. -/
theorem run_sound (services : List (Service F)) (requests : List (GroupRequest F)) :
    ∀ member ∈ (Group.run services requests).group.members,
      member.Sound (Group.run services requests).cut := by
  simpa using (run_course services requests).sound (sound_ofServices services)

/-- Serving one more request is a longer history. -/
theorem Group.run_snoc (services : List (Service F)) (requests : List (GroupRequest F))
    (request : GroupRequest F) :
    Group.run services (requests ++ [request]) = (Group.run services requests).extend request := by
  rw [Group.run, List.foldl_append]
  rfl

/-- A group that was just built has the services that it was built of. -/
theorem Group.services_ofServices (services : List (Service F)) :
    (Group.ofServices services).members.map Member.service = services := by
  rw [Group.ofServices, List.map_map]
  exact List.map_id _

/-- The services of a group stay those that it was built of. -/
theorem run_services (services : List (Service F)) (requests : List (GroupRequest F)) :
    (Group.run services requests).group.members.map Member.service = services := by
  rw [(run_course services requests).services_eq, Group.services_ofServices]

end ConnectorLifecycle
