import ConnectorLifecycle.Proofs.Calls
import ConnectorLifecycle.Proofs.Causes
import ConnectorLifecycle.Proofs.Group.StartAll

/-!
# What is told of a failed start

A start that fails reports the very failure that it returns, once, before it takes anything down;
nothing else that happens to a service is reported as a failed start. So the records of failed
starts are those of the failures that clients get, and each tells the whole of its failure. Starting
all services of a group reports the failures that it returns, in the same order.
-/

namespace ConnectorLifecycle

variable {F : Type}

/-- The failure of a start that an entry reports, with the logger that it goes to. -/
def Entry.startFailure? : Entry F → Option (Logger × Failure)
  | .notice (.endpoint logger (.startFailed f)) => some (logger, f)
  | _ => none

/-- The failures of starts that a journal reports, in order. -/
def startFailuresIn (journal : Journal F) : List (Logger × Failure) :=
  journal.filterMap Entry.startFailure?

/-- The failures with which a turn of a group answers a start, of one service or of all, in
order. -/
def GroupTurn.startFailures (turn : GroupTurn F) : List Failure :=
  match turn.request, turn.outcome with
  | .startAll _, .ok (.started report) => report.failed
  | .single _ request, .error f => if request.operation = .start then [f] else []
  | _, _ => []

@[simp] theorem startFailuresIn_append (j j' : Journal F) :
    startFailuresIn (j ++ j') = startFailuresIn j ++ startFailuresIn j' := List.filterMap_append

section Journals

variable (s : Service F)

@[simp] theorem startFailuresIn_changes (p q : Phase) : startFailuresIn (s.changes p q) = [] := by
  unfold Service.changes
  cases p.allows q <;> rfl

@[simp] theorem startFailuresIn_leave (st : State F) : startFailuresIn (s.leave st) = [] := by
  unfold Service.leave
  cases st.phase.isRunning with
  | true => exact startFailuresIn_changes s _ _
  | false => rfl

end Journals

section Starts

variable {s : Service F} {env : Surroundings F} {n : Nat} {st st' : State F}
  {sit sit' : Situation F} {j : Journal F} {o : Outcome Failure Handle}

/-- A teardown reports no failed start. -/
theorem Takedown.startFailuresIn_eq {o : Outcome Failure Unit} (h : Takedown s env st o st' j) :
    startFailuresIn j = [] := by
  cases h with
  | nothing => rfl
  | @stopped connector held answered => cases env.stop connector <;> rfl
  | cut => rfl

/-- A repair reports no failed start. -/
theorem Recovery.startFailuresIn_eq {o : Outcome Failure Unit} (h : Recovery s env st o st' j) :
    startFailuresIn j = [] := by
  cases h with
  | needless => rfl
  | mended interrupted down | cut interrupted down => exact down.startFailuresIn_eq

/-- A stop reports no failed start. -/
theorem Landing.startFailuresIn_eq {o : Outcome Failure Unit} (h : Landing s env st o st' j) :
    startFailuresIn j = [] := by
  cases h with
  | whole down | cut down => simp [down.startFailuresIn_eq]

/-- Bringing a connector up does not report how it ends. -/
theorem Ascent.startFailuresIn_eq (h : Ascent s env n o sit j) : startFailuresIn j = [] := by
  cases h <;> rfl

/-- A new attempt that ends by itself reports its failure, if it fails. -/
theorem Attempt.startFailuresIn_eq (h : Attempt s env n o sit j) (returns : o.isAbort = false) :
    startFailuresIn j = o.cause?.toList.map (s.logger, ·) := by
  cases h with
  | up ascent =>
    rw [startFailuresIn_append, ascent.startFailuresIn_eq]
    rfl
  | failed ascent down =>
    simp only [startFailuresIn_append, ascent.startFailuresIn_eq, down.startFailuresIn_eq]
    rfl
  -- A teardown that unwinds comes after the report, so nothing is returned of what was reported.
  | cut | cutDown => cases returns

/-- A start that ends by itself reports its failure, if it fails. -/
theorem Launch.startFailuresIn_eq (h : Launch s env sit o sit' j) (returns : o.isAbort = false) :
    startFailuresIn j = o.cause?.toList.map (s.logger, ·) := by
  cases h with
  | shown => rfl
  | cut => cases returns
  | anew idle repair ready attempt =>
    rw [startFailuresIn_append, startFailuresIn_append, repair.startFailuresIn_eq,
      attempt.startFailuresIn_eq returns]
    rfl

/-- A start that fails, wherever requests have led the service, reports the failure that it
returns. -/
theorem Service.Reachable.startFailuresIn_eq (h : s.Reachable sit) {f : Failure}
    (fails : (s.start env sit).1 = .error f) :
    startFailuresIn (s.start env sit).2.2 = [(s.logger, f)] := by
  obtain ⟨⟨e, shape⟩, _⟩ := h.sound
  obtain ⟨o, sit', j, launch⟩ := exists_launch s env sit shape.eq_clear
  rw [launch.eval] at fails ⊢
  obtain rfl : o = .error f := fails
  exact launch.startFailuresIn_eq rfl

end Starts

section Groups

variable {group : Group F} {env : Nat → Surroundings F} {place next : Nat}
  {members : List (Member F)} {sweep : Sweep F Handle}

/-- Starting members reports the failures that it collects, in order. -/
theorem Muster.startFailuresIn_eq (h : Muster env place next members sweep)
    (whole : sweep.abort = none) :
    (startFailuresIn sweep.journal).map Prod.snd = sweep.report.failed := by
  induction h with
  | nil => rfl
  | cut => cases whole
  | up launch _ ih =>
    rw [Sweep.report_cons_ok, ← ih whole, Sweep.cons, startFailuresIn_append,
      launch.startFailuresIn_eq rfl]
    rfl
  | failed launch _ ih =>
    rw [Sweep.report_cons_error, ← ih whole, Sweep.cons, startFailuresIn_append,
      startFailuresIn_append, launch.startFailuresIn_eq rfl]
    rfl

/-- Stopping members reports no failed start. -/
theorem Disband.startFailuresIn_eq {sweep : Sweep F Unit}
    (h : Disband env place next members sweep) : startFailuresIn sweep.journal = [] := by
  induction h with
  | nil => rfl
  | unreached _ _ ih => exact ih
  | cut _ _ landing ih | stopped _ _ landing ih =>
    rw [startFailuresIn_append, ih, landing.startFailuresIn_eq, List.nil_append]

/-- A request to one service that is no start has no failure of a start for an answer. -/
theorem GroupTurn.startFailures_of_unstarted {request : Request F}
    (unstarted : request.operation ≠ .start) (place : Nat) (o : Outcome Failure GroupReply)
    (j : Journal F) : GroupTurn.startFailures ⟨.single place request, o, j⟩ = [] := by
  cases o with
  | ok | abort => rfl
  | error f => exact if_neg unstarted

/-- Serving a request to one service reports the failure of the start that was asked for. -/
theorem Served.startFailuresIn_eq {s : Service F} {sit sit' : Situation F} {request : Request F}
    {o : Outcome Failure Reply} {j : Journal F} (h : Served s sit request o sit' j)
    (returns : o.isAbort = false) (place : Nat) :
    (startFailuresIn j).map Prod.snd =
      GroupTurn.startFailures ⟨.single place request, o.map .single, j⟩ := by
  cases h with
  | @launched env o sit' j launch =>
    rw [Outcome.isAbort_map] at returns
    rw [launch.startFailuresIn_eq returns]
    cases o <;> rfl
  | @landed env o st j landing =>
    have unstarted : (⟨.stop, env⟩ : Request F).operation ≠ .start := nofun
    rw [landing.startFailuresIn_eq]
    exact (GroupTurn.startFailures_of_unstarted unstarted ..).symm
  | looked looks =>
    have unstarted : request.operation ≠ .start := by
      intro hstart
      rw [hstart] at looks
      cases looks
    exact (GroupTurn.startFailures_of_unstarted unstarted ..).symm

/-- A request to a group that ends by itself reports the failures of starts that it answers with. -/
theorem Group.startFailuresIn_serve (sound : ∀ member ∈ group.members, member.Sound true)
    (request : GroupRequest F) (returns : (group.serve request).1.isAbort = false) :
    (startFailuresIn (group.serve request).2.2).map Prod.snd =
      GroupTurn.startFailures
        ⟨request, (group.serve request).1, (group.serve request).2.2⟩ := by
  cases request with
  | startAll env =>
    obtain ⟨sweep, muster, heval⟩ := Group.exists_muster sound env
    simp only [Group.serve, heval] at returns ⊢
    cases habort : sweep.abort with
    | some m => simp [habort, Outcome.map, Outcome.isAbort] at returns
    | none =>
      simp only [Option.elim_none, startFailuresIn_append, List.map_append,
        muster.startFailuresIn_eq habort]
      exact List.append_nil _
  | stopAll env =>
    obtain ⟨sweep, disband, heval⟩ := group.exists_disband env
    simp only [Group.serve, heval, disband.startFailuresIn_eq]
    rfl
  | single place request =>
    simp only [Group.serve, Group.serveSingle] at returns ⊢
    cases found : group.members[place]? with
    | none => rfl
    | some member =>
      obtain ⟨o, sit, j, heval, served⟩ := member.service.serve_served request
        ⟨member.state, group.next⟩ (sound member (List.mem_of_getElem? found)).eq_clear
      simp only [found, Member.run, heval, Outcome.isAbort_map] at returns ⊢
      exact served.startFailuresIn_eq returns place

/-- In every history of a group, a request that ends by itself reports the failures of starts that
it answers with. -/
theorem run_startFailuresIn (services : List (Service F)) (requests : List (GroupRequest F)) :
    ∀ turn ∈ (Group.run services requests).turns, turn.outcome.isAbort = false →
      (startFailuresIn turn.journal).map Prod.snd = turn.startFailures := by
  refine (group_run_induction (motive := fun run =>
    (∀ member ∈ run.group.members, member.Sound true) ∧
      ∀ turn ∈ run.turns, turn.outcome.isAbort = false →
        (startFailuresIn turn.journal).map Prod.snd = turn.startFailures) ?_ ?_ requests).2
  · exact ⟨fun member hmem => (sound_ofServices services member hmem).loosen,
      fun turn hturn => absurd hturn List.not_mem_nil⟩
  · rintro run request ⟨sound, told⟩
    rw [GroupRun.extend_eq]
    refine ⟨(Group.serve_course sound request).sound sound, fun turn hturn returns => ?_⟩
    rcases List.mem_append.mp hturn with hturn | hturn
    · exact told turn hturn returns
    · obtain rfl := List.mem_singleton.mp hturn
      exact Group.startFailuresIn_serve sound request returns

end Groups

/-- Errors are told whole, and alike wherever they are told. The record of a stop that was answered
with an error tells the causes on one line, each once and the outermost first. The record of a
failed start tells the message of the failure and, if an error brought it about, the line of that
error's causes after it; the causes of a failure are what is met on the way down from it. A start
that fails, whatever requests came before and whatever other services did meanwhile, leaves one such
record, of the failure that it returns; and so does every failure that a group answers with. -/
theorem failures_are_told_whole (s : Service F) (services : List (Service F))
    (requests : List (GroupRequest F)) :
    (∀ (logger : Logger) (texts : List String) (line : String),
      (Notice.endpoint logger (.connectorStopFailed (.ofList texts))).record =
          ⟨.warn, logger.target,
            "[" ++ logger.service ++ "] " ++ "connector stop failed: " ++ line⟩ ↔
        Joined texts line) ∧
    (∀ (logger : Logger) (f : Failure) (line : String),
      (Notice.endpoint logger (.startFailed f)).record =
          ⟨.error, logger.target, "[" ++ logger.service ++ "] " ++ "start failed: " ++ line⟩ ↔
        f.Told line) ∧
    (∀ (f : Failure) (texts : List String), Descent f.source? texts ↔ texts = f.causes) ∧
    (∀ (sit : Situation F) (env : Surroundings F) (f : Failure), s.Reachable sit →
      (s.start env sit).1 = .error f → startFailuresIn (s.start env sit).2.2 = [(s.logger, f)]) ∧
    ∀ turn ∈ (Group.run services requests).turns, turn.outcome.isAbort = false →
      (startFailuresIn turn.journal).map Prod.snd = turn.startFailures := by
  refine ⟨?_, ?_, ?_, ?_, run_startFailuresIn services requests⟩
  · intro logger texts line
    rw [CauseChain.joined_ofList_iff]
    exact Notice.record_endpoint_iff rfl
  · intro logger f line
    rw [Failure.told_iff]
    exact Notice.record_endpoint_iff rfl
  · exact fun f texts => Failure.descent_iff
  · exact fun sit env f reachable fails => reachable.startFailuresIn_eq fails

/-- After a start that unwound, a connector does not start, and answers its stop with an error as
well. -/
theorem failures_are_told_whole_after_interruption :
    let interrupted : Request String := .scripted .start { start := .abort "start blew up" }
    let sit := (Service.specimen.serve interrupted ⟨{}, 1⟩).2.1
    let script : Script :=
      { start := .error ⟨"opening listener", ["bind failed", "port in use"]⟩
        stop := .error ⟨"not started", ["no channel"]⟩ }
    let env := (Request.scripted .start script).env
    let f : Failure := .notStarted "web" ⟨"opening listener", ["bind failed", "port in use"]⟩
    let requests : List (GroupRequest String) := [.single 0 interrupted, .startAll fun _ => env]
    Service.specimen.Reachable sit ∧ (Service.specimen.start env sit).1 = .error f ∧
    startFailuresIn (Service.specimen.start env sit).2.2 = [(.ofService "web", f)] ∧
    (Notice.endpoint (.ofService "web") (.startFailed f)).record =
      ⟨.error, "dd_endpoint", "[web] start failed: [web] failed to start: " ++
        "opening listener: bind failed: port in use"⟩ ∧
    ∃ turn ∈ (Group.run [Service.specimen] requests).turns, turn.outcome.isAbort = false ∧
      turn.startFailures = [f] ∧ (startFailuresIn turn.journal).map Prod.snd = [f] := by
  intro interrupted sit script env f requests
  obtain ⟨_, records, _, told, answered⟩ :=
    failures_are_told_whole Service.specimen [Service.specimen] requests
  have reachable : Service.specimen.Reachable sit := .served (.built 1) interrupted
  have fails : (Service.specimen.start env sit).1 = .error f := by decide +kernel
  have whole : f.Told ("[web] failed to start" ++ ": " ++
      ("opening listener" ++ ": " ++ ("bind failed" ++ ": " ++ "port in use"))) :=
    .caused rfl (.above _ (.above _ (.alone _)))
  refine ⟨reachable, fails, told sit env f reachable fails,
    ((records (.ofService "web") f _).mpr whole).trans (by decide +kernel), ?_⟩
  obtain ⟨turn, hturn, returns, hfailures⟩ :
      ∃ turn ∈ (Group.run [Service.specimen] requests).turns,
        turn.outcome.isAbort = false ∧ turn.startFailures = [f] := by
    have reported : (Group.run [Service.specimen] requests).turns.any (fun turn =>
        !turn.outcome.isAbort && turn.startFailures == [f]) = true := by decide +kernel
    simpa using reported
  exact ⟨turn, hturn, returns, hfailures, (answered turn hturn returns).trans hfailures⟩

end ConnectorLifecycle
