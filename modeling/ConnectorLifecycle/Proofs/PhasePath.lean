import ConnectorLifecycle.Proofs.Calm
import ConnectorLifecycle.Proofs.Shape

/-!
# The path of phases that a log tells of

Every change of phase is reported with the phase before and the phase after. An operation that
begins in a state that no interruption left reports a connected path along the table of expected
changes, also if it unwinds, and warns of nothing. An interruption breaks the path, and each of the
two warnings tells of one: a start repairs what a move that unwound left, and a stop leaves
`starting` for `stopped`. Nothing else is ever warned of.
-/

namespace ConnectorLifecycle

variable {F : Type}

/-- The change of phase that an entry reports, with the service that it names. -/
def Entry.change? : Entry F → Option (String × Phase × Phase)
  | .notice (.changed s p q) => some (s, p, q)
  | _ => none

/-- The warning of an entry that says that something did not go as expected with a phase. -/
def Entry.anomaly? : Entry F → Option Notice
  | .notice (.unexpectedChange s p q) => some (.unexpectedChange s p q)
  | .notice (.recovering s p) => some (.recovering s p)
  | _ => none

/-- The changes of phase that a journal reports, in order. -/
def changesIn (journal : Journal F) : List (String × Phase × Phase) :=
  journal.filterMap Entry.change?

/-- The warnings of a journal about phases, in order. -/
def anomaliesIn (journal : Journal F) : List Notice := journal.filterMap Entry.anomaly?

/-- Reported changes that lead from one phase to another: each one is expected and begins where the
one before ended. -/
inductive PhasePath (service : String) : Phase → List (String × Phase × Phase) → Phase → Prop
  /-- No change at all. -/
  | stay (p : Phase) : PhasePath service p [] p
  /-- A change, and what comes after it. -/
  | step {p q r : Phase} {rest : List (String × Phase × Phase)} (expected : p.allows q = true)
      (onward : PhasePath service q rest r) : PhasePath service p ((service, p, q) :: rest) r

/-- A path that ends where another begins goes on along it. -/
theorem PhasePath.append {service : String} {p q r : Phase}
    {changes changes' : List (String × Phase × Phase)} (h : PhasePath service p changes q)
    (h' : PhasePath service q changes' r) : PhasePath service p (changes ++ changes') r := by
  induction h with
  | stay p => exact h'
  | step expected _ ih => exact .step expected (ih h')

/-- An expected change is a path. -/
theorem PhasePath.single {service : String} {p q : Phase} (expected : p.allows q = true) :
    PhasePath service p [(service, p, q)] q := .step expected (.stay q)

/-- An unexpected change is warned of where it is reported. -/
theorem mem_anomaliesIn_of_unexpected {journal : Journal F} {service : String} {p q : Phase} :
    .unexpectedChange service p q ∈ anomaliesIn journal ↔
      .notice (.unexpectedChange service p q) ∈ journal := by
  rw [anomaliesIn, List.mem_filterMap]
  constructor
  · rintro ⟨entry, hmem, h⟩
    cases entry with
    | call => cases h
    | notice notice => cases notice <;> cases h; exact hmem
  · exact fun h => ⟨_, h, rfl⟩

/-- A repair is warned of where it is reported. -/
theorem mem_anomaliesIn_of_recovering {journal : Journal F} {service : String} {p : Phase} :
    .recovering service p ∈ anomaliesIn journal ↔ .notice (.recovering service p) ∈ journal := by
  rw [anomaliesIn, List.mem_filterMap]
  constructor
  · rintro ⟨entry, hmem, h⟩
    cases entry with
    | call => cases h
    | notice notice => cases notice <;> cases h; exact hmem
  · exact fun h => ⟨_, h, rfl⟩

section Journals

variable (s : Service F)

@[simp] theorem changesIn_nil : changesIn ([] : Journal F) = [] := rfl

@[simp] theorem anomaliesIn_nil : anomaliesIn ([] : Journal F) = [] := rfl

@[simp] theorem changesIn_append (j j' : Journal F) :
    changesIn (j ++ j') = changesIn j ++ changesIn j' := List.filterMap_append

@[simp] theorem anomaliesIn_append (j j' : Journal F) :
    anomaliesIn (j ++ j') = anomaliesIn j ++ anomaliesIn j' := List.filterMap_append

@[simp] theorem changesIn_changes (p q : Phase) : changesIn (s.changes p q) = [(s.name, p, q)] := by
  unfold Service.changes
  cases p.allows q <;> rfl

@[simp] theorem anomaliesIn_changes (p q : Phase) :
    anomaliesIn (s.changes p q) =
      if p.allows q then [] else [.unexpectedChange s.name p q] := by
  unfold Service.changes
  cases p.allows q <;> rfl

end Journals

/-- An entry that tells of the connector and its surroundings, not of the phase. -/
def Entry.isInner : Entry F → Bool
  | .call _ | .notice (.endpoint _ _) => true
  | .notice _ => false

/-- Inner entries report no change of phase and warn of none. -/
theorem changesIn_of_inner {j : Journal F} (inner : ∀ entry ∈ j, entry.isInner = true) :
    changesIn j = [] ∧ anomaliesIn j = [] := by
  constructor
  · refine List.filterMap_eq_nil_iff.mpr fun entry hmem => ?_
    have := inner entry hmem
    revert this
    cases entry with
    | call => exact fun _ => rfl
    | notice notice => cases notice <;> simp [Entry.isInner, Entry.change?]
  · refine List.filterMap_eq_nil_iff.mpr fun entry hmem => ?_
    have := inner entry hmem
    revert this
    cases entry with
    | call => exact fun _ => rfl
    | notice notice => cases notice <;> simp [Entry.isInner, Entry.anomaly?]

variable {s : Service F} {env : Surroundings F} {e : Ending} {st st' : State F} {n : Nat}
  {sit sit' : Situation F} {j : Journal F}

/-- Stopping a connector tells of nothing but the connector. -/
theorem Service.isInner_farewell (s : Service F) (connector : Instance F)
    (answer : Outcome CauseChain Unit) :
    ∀ entry ∈ s.farewell connector answer, entry.isInner = true := by
  cases answer <;> simp [farewell, Entry.isInner]

/-- A teardown tells of nothing but the connector. -/
theorem Takedown.isInner {o : Outcome Failure Unit} (h : Takedown s env st o st' j) :
    ∀ entry ∈ j, entry.isInner = true := by
  cases h with
  | nothing => simp
  | stopped | cut => exact s.isInner_farewell _ _

/-- Bringing a connector up tells of nothing but the connector. -/
theorem Ascent.isInner {o : Outcome Failure Handle} (h : Ascent s env n o sit j) :
    ∀ entry ∈ j, entry.isInner = true := by
  cases h <;> simp [Service.buildUp, Entry.isInner]

/-- A teardown does not change the phase. -/
theorem Takedown.phase {o : Outcome Failure Unit} (h : Takedown s env st o st' j) :
    st'.phase = st.phase := by
  cases h <;> rfl

/-- A new attempt goes on from `starting` along the table, even if it unwinds, and warns of
nothing. -/
theorem Attempt.phasePath {o : Outcome Failure Handle} (h : Attempt s env n o sit j) :
    PhasePath s.name .starting (changesIn j) sit.state.phase ∧ anomaliesIn j = [] := by
  cases h with
  | up ascent =>
    obtain ⟨hchanges, hanomalies⟩ := changesIn_of_inner ascent.isInner
    rw [changesIn_append, anomaliesIn_append, hchanges, hanomalies]
    exact ⟨.single rfl, rfl⟩
  | cut ascent =>
    obtain ⟨hchanges, hanomalies⟩ := changesIn_of_inner ascent.isInner
    rw [hchanges, ascent.phase]
    exact ⟨.stay _, hanomalies⟩
  | failed ascent down =>
    obtain ⟨hchanges, hanomalies⟩ := changesIn_of_inner ascent.isInner
    obtain ⟨hchanges', hanomalies'⟩ := changesIn_of_inner down.isInner
    simp only [changesIn_append, anomaliesIn_append, hchanges, hanomalies, hchanges', hanomalies']
    exact ⟨.single rfl, rfl⟩
  | cutDown ascent down =>
    obtain ⟨hchanges, hanomalies⟩ := changesIn_of_inner ascent.isInner
    obtain ⟨hchanges', hanomalies'⟩ := changesIn_of_inner down.isInner
    simp only [changesIn_append, anomaliesIn_append, hchanges, hanomalies, hchanges', hanomalies']
    rw [down.phase, ascent.phase]
    exact ⟨.stay _, rfl⟩

/-- A repair warns of itself alone, if it is needed, and reports no change of phase. -/
theorem Recovery.anomalies {o : Outcome Failure Unit} (h : Recovery s env st o st' j) :
    changesIn j = [] ∧
      anomaliesIn j = if st.phase.canStart then [] else [.recovering s.name st.phase] := by
  cases h with
  | needless settled => simp [settled]
  | mended interrupted down | cut interrupted down =>
    obtain ⟨hchanges, hanomalies⟩ := changesIn_of_inner down.isInner
    rw [if_neg (by simp [interrupted])]
    exact ⟨hchanges, congrArg _ hanomalies⟩

/-- An operation was cut short here. -/
def Phase.isMidway : Phase → Bool
  | starting | stopping => true
  | created | running | stopped | failed => false

/-- A start may begin in three phases. -/
theorem Phase.eq_of_canStart {p : Phase} (ready : p.canStart = true) :
    p = created ∨ p = stopped ∨ p = failed := by
  cases p <;> simp [canStart] at ready ⊢

/-- A state is midway exactly if the last move unwound. -/
theorem Shape.isMidway_iff (h : Shape s e st) : st.phase.isMidway = true ↔ e ≠ .whole := by
  cases h with
  | clear ready =>
    refine iff_of_false (fun hp => ?_) (fun he => he rfl)
    rcases Phase.eq_of_canStart ready with rfl | rfl | rfl <;> cases hp
  | up => exact iff_of_false nofun (fun he => he rfl)
  | lookup | halfUp | halfDown => exact iff_of_true rfl nofun

/-- A state without a handle to show is one from which a start may begin, or midway. -/
theorem Shape.canStart_of_idle (h : Shape s e st) (idle : s.runningHandle? st = none) :
    st.phase.canStart = !st.phase.isMidway := by
  cases h with
  | clear ready => rcases Phase.eq_of_canStart ready with rfl | rfl | rfl <;> rfl
  | up => cases idle
  | lookup | halfUp | halfDown => rfl

/-- A repair that finds nothing to repair changes nothing. -/
theorem Recovery.eq_of_settled {o : Outcome Failure Unit} (h : Recovery s env st o st' j)
    (settled : st.phase.canStart = true) : o = .ok () ∧ st' = st ∧ j = [] := by
  cases h with
  | needless => exact ⟨rfl, rfl, rfl⟩
  | mended interrupted | cut interrupted => simp [settled] at interrupted

/-- A start from a state that no interruption left follows the table. -/
theorem Launch.phasePath {o : Outcome Failure Handle} (h : Launch s env sit o sit' j)
    (shape : Shape s .whole sit.state) :
    PhasePath s.name sit.state.phase (changesIn j) sit'.state.phase := by
  have settled (idle : s.runningHandle? sit.state = none) : sit.state.phase.canStart = true := by
    have hmidway : sit.state.phase.isMidway = false := by
      rw [Bool.eq_false_iff, ne_eq, shape.isMidway_iff]
      exact fun he => he rfl
    rw [shape.canStart_of_idle idle, hmidway]
    rfl
  cases h with
  | shown runs => exact .stay _
  | cut idle repair => cases (repair.eq_of_settled (settled idle)).1
  | anew idle repair ready attempt =>
    obtain ⟨_, hst, rfl⟩ := repair.eq_of_settled (settled idle)
    have hp := congrArg State.phase hst
    subst hp
    exact .step (Phase.canStart_eq_allows _ ▸ ready) attempt.phasePath.1

/-- A start warns of the repair that it makes, and of nothing else. -/
theorem Launch.anomalies {o : Outcome Failure Handle} (h : Launch s env sit o sit' j)
    (shape : Shape s e sit.state) :
    anomaliesIn j =
      if sit.state.phase.isMidway then [.recovering s.name sit.state.phase] else [] := by
  have repaired {o : Outcome Failure Unit} {st' : State F} {j : Journal F}
      (idle : s.runningHandle? sit.state = none) (repair : Recovery s env sit.state o st' j) :
      anomaliesIn j =
        if sit.state.phase.isMidway then [.recovering s.name sit.state.phase] else [] := by
    rw [repair.anomalies.2, shape.canStart_of_idle idle]
    cases sit.state.phase.isMidway <;> rfl
  cases h with
  | shown runs =>
    rw [(Service.runningHandle?_eq_some_iff.mp runs).1]
    rfl
  | cut idle repair => exact repaired idle repair
  | anew idle repair ready attempt =>
    rw [anomaliesIn_append, anomaliesIn_append, attempt.phasePath.2, repaired idle repair]
    simp [anomaliesIn, Entry.anomaly?]

/-- A stop from a state that no interruption left follows the table. -/
theorem Landing.phasePath {o : Outcome Failure Unit} (h : Landing s env st o st' j)
    (shape : Shape s .whole st) : PhasePath s.name st.phase (changesIn j) st'.phase := by
  have left : PhasePath s.name st.phase (changesIn (s.leave st)) st.leaving.phase ∧
      st.leaving.phase.allows .stopped = true := by
    unfold Service.leave State.leaving
    cases shape with
    | clear ready =>
      rcases Phase.eq_of_canStart ready with rfl | rfl | rfl <;> exact ⟨.stay _, rfl⟩
    | up => exact ⟨.single rfl, rfl⟩
  cases h with
  | whole down =>
    rw [changesIn_append, changesIn_append, (changesIn_of_inner down.isInner).1, changesIn_changes]
    exact left.1.append (.single left.2)
  | cut down =>
    rw [changesIn_append, (changesIn_of_inner down.isInner).1, List.append_nil, down.phase]
    exact left.1

/-- A stop warns exactly if it takes down what a start left that was cut short. -/
theorem Landing.anomalies {o : Outcome Failure Unit} (h : Landing s env st o st' j) :
    anomaliesIn j = if st.phase = .starting ∧ o.isAbort = false
      then [.unexpectedChange s.name .starting .stopped] else [] := by
  have left : anomaliesIn (s.leave st) = [] := by
    unfold Service.leave
    cases hp : st.phase <;> simp [Phase.isRunning, Phase.allows]
  cases h with
  | whole down =>
    rw [anomaliesIn_append, anomaliesIn_append, (changesIn_of_inner down.isInner).2, left,
      anomaliesIn_changes]
    unfold State.leaving
    cases hp : st.phase <;> simp [hp, Phase.isRunning, Phase.allows, Outcome.isAbort]
  | cut down =>
    rw [anomaliesIn_append, (changesIn_of_inner down.isInner).2, left,
      if_neg (by simp [Outcome.isAbort])]
    rfl

/-- A stop in `starting` ends as the teardown of what it found does. -/
theorem Landing.isAbort_of_starting {o : Outcome Failure Unit} (h : Landing s env st o st' j)
    (hp : st.phase = .starting) (n : Nat) :
    o.isAbort = false ↔ (s.teardown env ⟨st, n⟩).1 = .ok () := by
  have hleaving : st.leaving = st := by simp [State.leaving, hp, Phase.isRunning]
  cases h with
  | whole down =>
    rw [hleaving] at down
    rw [down.eval n]
    exact iff_of_true rfl rfl
  | cut down =>
    rw [hleaving] at down
    rw [down.eval n]
    exact iff_of_false (by simp [Outcome.isAbort]) (by simp)

/-- A stop that is served in `starting` ends as the teardown of what it found does. -/
theorem Served.isAbort_of_starting {request : Request F} {o : Outcome Failure Reply}
    (h : Served s sit request o sit' j) (hstop : request.operation = .stop)
    (hp : sit.state.phase = .starting) :
    o.isAbort = false ↔ (s.teardown request.env sit).1 = .ok () := by
  cases h with
  | launched => cases hstop
  | landed landing =>
    rw [Outcome.isAbort_map]
    exact landing.isAbort_of_starting hp sit.next
  | looked looks => simp [hstop, Operation.moves] at looks

/-- A request to a service that no interruption left midway follows the table, even if it
unwinds. -/
theorem Served.phasePath {request : Request F} {o : Outcome Failure Reply}
    (h : Served s sit request o sit' j) (shape : Shape s .whole sit.state) :
    PhasePath s.name sit.state.phase (changesIn j) sit'.state.phase := by
  cases h with
  | launched launch => exact launch.phasePath shape
  | landed landing => exact landing.phasePath shape
  | looked => exact .stay _

/-- A start warns of a repair, a stop of a start that was cut short, and nothing warns of anything
else. -/
theorem Served.anomalies {request : Request F} {o : Outcome Failure Reply}
    (h : Served s sit request o sit' j) (shape : Shape s e sit.state) :
    anomaliesIn j =
      (if request.operation = .start ∧ sit.state.phase.isMidway = true
        then [.recovering s.name sit.state.phase] else []) ++
      if request.operation = .stop ∧ sit.state.phase = .starting ∧ o.isAbort = false
        then [.unexpectedChange s.name .starting .stopped] else [] := by
  cases h with
  | launched launch => simp [launch.anomalies shape]
  | landed landing => simp [landing.anomalies]
  | looked looks =>
    have still : request.operation ≠ .start ∧ request.operation ≠ .stop := by
      constructor <;> intro hop <;> simp [hop, Operation.moves] at looks
    simp [still]

/-- No request of a run unwound. -/
def Run.Undisturbed (run : Run F) : Prop := ∀ turn ∈ run.turns, turn.outcome.isAbort = false

/-- The most recent request that moved the service unwound. -/
def Run.Interrupted (run : Run F) : Prop :=
  ∃ turn, run.lastMove? = some turn ∧ turn.outcome.isAbort = true

/-- An interruption is a last move that did not end as a whole. -/
theorem Run.interrupted_iff {run : Run F} : run.Interrupted ↔ run.ending ≠ .whole := by
  constructor
  · rintro ⟨turn, hmove, habort⟩ hwhole
    rw [Run.ending, hmove] at hwhole
    simp only [Ending.of, habort, if_true] at hwhole
    split at hwhole <;> cases hwhole
  · exact Run.lastMove?_of_ending

/-- Without any interruption the last move ended as a whole. -/
theorem Run.Undisturbed.ending {run : Run F} (h : run.Undisturbed) : run.ending = .whole := by
  refine Decidable.byContradiction fun hne => ?_
  obtain ⟨turn, hmove, habort⟩ := Run.interrupted_iff.mpr hne
  have hmem := (List.mem_filter.mp (List.mem_of_getLast? hmove)).1
  rw [h turn hmem] at habort
  cases habort

/-- A run whose last request is taken away was not disturbed before it either. -/
theorem Run.Undisturbed.of_snoc {run : Run F} {turn : Turn F}
    (h : Run.Undisturbed ⟨sit', run.turns ++ [turn]⟩) : run.Undisturbed :=
  fun earlier hmem => h earlier (List.mem_append_left _ hmem)

/-- A request that is served among calm collaborators does not unwind, whatever came before it. -/
theorem run_isAbort_of_calm (s : Service F) (first : Nat) (requests : List (Request F)) :
    ∀ turn ∈ (s.run first requests).turns, turn.request.env.Calm →
      turn.outcome.isAbort = false := by
  refine (run_induction (motive := fun run => Shape s run.ending run.situation.state ∧
    ∀ turn ∈ run.turns, turn.request.env.Calm → turn.outcome.isAbort = false)
    ⟨.clear rfl, fun _ hmem => absurd hmem List.not_mem_nil⟩ ?_ requests).2
  rintro run request ⟨shape, kept⟩
  obtain ⟨o, sit', j, heval, served⟩ := s.serve_served request run.situation shape.eq_clear
  rw [s.extend_eq heval]
  refine ⟨?_, fun turn hmem calm => ?_⟩
  · rw [Run.ending_snoc run]
    exact shape.served served
  · rcases List.mem_append.mp hmem with hmem | hmem
    · exact kept turn hmem calm
    · obtain rfl := List.mem_singleton.mp hmem
      have := s.serve_isAbort_of_calm calm run.situation shape.eq_clear
      rwa [heval] at this

/-- A run that was never disturbed follows the table from `created` on and warns of nothing. -/
theorem run_phasePath (s : Service F) (first : Nat) (requests : List (Request F))
    (undisturbed : (s.run first requests).Undisturbed) :
    PhasePath s.name .created (changesIn (s.run first requests).journal)
        (s.run first requests).situation.state.phase ∧
      anomaliesIn (s.run first requests).journal = [] := by
  refine run_served_induction (motive := fun run => run.Undisturbed →
    PhasePath s.name .created (changesIn run.journal) run.situation.state.phase ∧
      anomaliesIn run.journal = []) (fun _ => ⟨.stay _, rfl⟩) ?_ requests undisturbed
  intro run request o sit' j shape kept served undisturbed
  obtain ⟨path, quiet⟩ := kept undisturbed.of_snoc
  rw [undisturbed.of_snoc.ending] at shape
  have hmidway : run.situation.state.phase.isMidway = false := by
    rw [Bool.eq_false_iff, ne_eq, shape.isMidway_iff]
    exact fun he => he rfl
  have hjournal : (Run.mk sit' (run.turns ++ [⟨request, o, j⟩])).journal = run.journal ++ j := by
    simp [Run.journal]
  rw [hjournal, changesIn_append, anomaliesIn_append, quiet, served.anomalies shape]
  refine ⟨path.append (served.phasePath shape), ?_⟩
  have hstarting : run.situation.state.phase ≠ .starting := by
    rintro hp
    rw [hp] at hmidway
    cases hmidway
  simp [hmidway, hstarting]

/-- Give a service up, or keep it. -/
def Service.retire (s : Service F) : Option (Surroundings F) → Step F Unit
  | some env => s.drop env
  | none => pure ()

/-- Giving up a service that no interruption left midway follows the table and warns of nothing. -/
theorem Service.retire_phasePath (s : Service F) (given : Option (Surroundings F))
    (shape : Shape s .whole sit.state) :
    PhasePath s.name sit.state.phase (changesIn (s.retire given sit).2.2)
        (s.retire given sit).2.1.state.phase ∧
      anomaliesIn (s.retire given sit).2.2 = [] := by
  cases given with
  | none => exact ⟨.stay _, rfl⟩
  | some env =>
    rcases s.drop_landing env sit with ⟨_, hdrop⟩ | ⟨o, st', j, _, landing, hdrop⟩
    · rw [retire, hdrop]
      exact ⟨.stay _, rfl⟩
    · rw [retire, hdrop]
      have hstarting : sit.state.phase ≠ .starting := fun hp => (shape.of_starting hp).2 rfl
      refine ⟨landing.phasePath shape, landing.anomalies.trans ?_⟩
      rw [if_neg (fun h => hstarting h.1)]

/-- What a service logs of its phases. In a run that nobody disturbed, given up at its end or not,
the changes of phase form a path along the table from `created` to the phase in which the service
stands, and nothing is warned of; a request among calm collaborators never disturbs. After any run,
a request warns of a repair exactly if it is a start and the last move unwound, which leaves
`starting` or `stopping`; and it warns of an unexpected change exactly if it is a stop that finds
`starting` and can take down what it finds, and then of the change to `stopped`. Giving a service up
warns like the stop that it makes while a connector is held. -/
theorem phase_log_follows_table (s : Service F) (first : Nat) (requests : List (Request F)) :
    let run := s.run first requests
    let sit := run.situation
    (∀ given : Option (Surroundings F), run.Undisturbed →
      let last := s.retire given sit
      let journal := run.journal ++ last.2.2
      PhasePath s.name .created (changesIn journal) last.2.1.state.phase ∧
        anomaliesIn journal = []) ∧
    (∀ turn ∈ run.turns, turn.request.env.Calm → turn.outcome.isAbort = false) ∧
    (∀ request service p, .notice (.recovering service p) ∈ (s.serve request sit).2.2 ↔
      request.operation = .start ∧ run.Interrupted ∧ service = s.name ∧ p = sit.state.phase) ∧
    (run.Interrupted → sit.state.phase = .starting ∨ sit.state.phase = .stopping) ∧
    (∀ request service p q,
      .notice (.unexpectedChange service p q) ∈ (s.serve request sit).2.2 ↔
        request.operation = .stop ∧ sit.state.phase = .starting ∧
          (s.teardown request.env sit).1 = .ok () ∧
          service = s.name ∧ p = .starting ∧ q = .stopped) ∧
    (∀ env service p, .notice (.recovering service p) ∉ (s.drop env sit).2.2) ∧
    ∀ env service p q, .notice (.unexpectedChange service p q) ∈ (s.drop env sit).2.2 ↔
      sit.state.connector.isSome = true ∧ sit.state.phase = .starting ∧
        (s.teardown env sit).1 = .ok () ∧ service = s.name ∧ p = .starting ∧ q = .stopped := by
  intro run sit
  have shape : Shape s run.ending sit.state := run_shape s first requests
  have midway : run.Interrupted ↔ sit.state.phase.isMidway = true :=
    Run.interrupted_iff.trans shape.isMidway_iff.symm
  refine ⟨?_, run_isAbort_of_calm s first requests, ?_, ?_, ?_, ?_, ?_⟩
  · intro given undisturbed last journal
    obtain ⟨path, quiet⟩ := run_phasePath s first requests undisturbed
    rw [undisturbed.ending] at shape
    obtain ⟨onward, silent⟩ := s.retire_phasePath given shape
    rw [changesIn_append, anomaliesIn_append, quiet, silent]
    exact ⟨path.append onward, rfl⟩
  · intro request service p
    obtain ⟨o, sit', j, heval, served⟩ := s.serve_served request sit shape.eq_clear
    rw [heval, ← mem_anomaliesIn_of_recovering, served.anomalies shape, midway]
    by_cases hstart : request.operation = .start ∧ sit.state.phase.isMidway = true
    · simp [hstart]
    · rw [if_neg hstart]
      refine iff_of_false (fun h => ?_) fun h => hstart ⟨h.1, h.2.1⟩
      split at h <;> simp at h
  · intro interrupted
    cases hp : sit.state.phase <;> simp [midway, hp, Phase.isMidway] at interrupted ⊢
  · intro request service p q
    obtain ⟨o, sit', j, heval, served⟩ := s.serve_served request sit shape.eq_clear
    rw [heval, ← mem_anomaliesIn_of_unexpected, served.anomalies shape, List.mem_append,
      or_iff_right (by split <;> simp)]
    by_cases hstop : request.operation = .stop ∧ sit.state.phase = .starting
    · rw [← served.isAbort_of_starting hstop.1 hstop.2]
      simp [hstop]
    · rw [if_neg fun h => hstop ⟨h.1, h.2.1⟩]
      exact iff_of_false List.not_mem_nil fun h => hstop ⟨h.1, h.2.1⟩
  · intro env service p
    rw [← mem_anomaliesIn_of_recovering]
    rcases s.drop_landing env sit with ⟨_, hdrop⟩ | ⟨o, st', j, _, landing, hdrop⟩
    · rw [hdrop]
      exact List.not_mem_nil
    · rw [hdrop]
      change Notice.recovering service p ∉ anomaliesIn j
      rw [landing.anomalies]
      split <;> simp
  · intro env service p q
    rw [← mem_anomaliesIn_of_unexpected]
    rcases s.drop_landing env sit with
      ⟨none_held, hdrop⟩ | ⟨o, st', j, held, landing, hdrop⟩
    · rw [hdrop, none_held]
      exact iff_of_false List.not_mem_nil (by simp)
    · rw [hdrop]
      change Notice.unexpectedChange service p q ∈ anomaliesIn j ↔ _
      rw [landing.anomalies, held]
      by_cases hp : sit.state.phase = .starting
      · rw [← show _ ↔ (s.teardown env sit).1 = _ from landing.isAbort_of_starting hp sit.next]
        simp [hp]
      · simp [hp]

/-- A stop that unwound breaks the path, and the next start warns of it. -/
example :
    let journal := (Service.specimen.run 1 [.scripted .start,
      .scripted .stop { stop := .abort "stop blew up" }, .scripted .start]).journal
    changesIn journal = [("web", .created, .starting), ("web", .starting, .running),
        ("web", .running, .stopping), ("web", .failed, .starting), ("web", .starting, .running)] ∧
      anomaliesIn journal = [.recovering "web" .stopping] := by
  decide +kernel

end ConnectorLifecycle
