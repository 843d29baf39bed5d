import ConnectorLifecycle.Proofs.Shape

/-!
# What connectors are started with

A client that asks for the properties gets a merge of the two groups that the state holds, made anew
each time; the connector got a merge that was made before it came up. `Delivery` says what one
operation does to both: either no connector is started, and one that is held was held before in the
same state, or one is started with the properties of the address that was just found, and if it is
held afterwards the state holds the groups of that same address. So after every run the properties
of a running service are those that its connector was started with, whatever came before. Each
start is announced with the size of its bag and gets the cache manager of the service.
-/

namespace ConnectorLifecycle

variable {F : Type}

/-- A connector being started. -/
structure StartCall (F : Type) where
  /-- The connector. -/
  connector : Instance F
  /-- The properties that it gets. -/
  bag : PropertyBag
  /-- The cache manager that it gets. -/
  manager : CacheManager

/-- The start of a connector that an entry tells of. -/
def Entry.startCall? : Entry F → Option (StartCall F)
  | .call (.start connector bag manager) => some ⟨connector, bag, manager⟩
  | _ => none

/-- The starts of connectors, in order. -/
def startCallsIn (journal : Journal F) : List (StartCall F) := journal.filterMap Entry.startCall?

/-- The starts of the connector of a number. -/
def startCallsOf (n : Nat) (journal : Journal F) : List (StartCall F) :=
  (startCallsIn journal).filter fun start => start.connector.number = n

/-- An entry that announces the start of a connector or makes it. -/
def Entry.concernsStart : Entry F → Bool
  | .call (.start _ _ _) | .notice (.endpoint _ (.connectorStarting _)) => true
  | _ => false

/-- Every start of a connector stands right after its announcement, which tells the size of its bag,
and gets the cache manager of the service; nothing else is announced. -/
inductive Announced (s : Service F) : Journal F → Prop
  /-- Nothing happened. -/
  | nil : Announced s []
  /-- Something else happened first. -/
  | other {entry : Entry F} {rest : Journal F} (aside : entry.concernsStart = false)
      (onward : Announced s rest) : Announced s (entry :: rest)
  /-- A start was announced and made first. -/
  | start (connector : Instance F) (bag : PropertyBag) {rest : Journal F}
      (onward : Announced s rest) :
      Announced s (.notice (.endpoint s.logger (.connectorStarting bag.size)) ::
        .call (.start connector bag s.manager) :: rest)

namespace Announced

variable {s : Service F} {j j' : Journal F}

/-- Starts that were announced in two journals were announced in both together. -/
theorem append (h : Announced s j) (h' : Announced s j') : Announced s (j ++ j') := by
  induction h with
  | nil => exact h'
  | other aside _ ih => exact .other aside ih
  | start connector bag _ ih => exact .start connector bag ih

/-- A journal in which no connector is started announces none. -/
theorem of_aside (aside : ∀ entry ∈ j, entry.concernsStart = false) : Announced s j := by
  induction j with
  | nil => exact .nil
  | cons entry rest ih =>
    have onward : Announced s rest := ih fun other hmem => aside other (List.mem_cons_of_mem _ hmem)
    exact .other (aside entry List.mem_cons_self) onward

/-- What stands before a start is its announcement. -/
theorem announcement (h : Announced s j) {before after : Journal F} {connector : Instance F}
    {bag : PropertyBag} {manager : CacheManager}
    (split : j = before ++ .call (.start connector bag manager) :: after) :
    manager = s.manager ∧ ∃ earlier,
      before = earlier ++ [.notice (.endpoint s.logger (.connectorStarting bag.size))] := by
  induction h generalizing before with
  | nil => simp at split
  | @other entry rest aside _ ih =>
    cases before with
    | nil =>
      obtain ⟨rfl, rfl⟩ := List.cons.inj split
      cases aside
    | cons first before =>
      obtain ⟨rfl, hrest⟩ := List.cons.inj split
      obtain ⟨hmanager, earlier, rfl⟩ := ih hrest
      exact ⟨hmanager, entry :: earlier, rfl⟩
  | start connector' bag' _ ih =>
    match before, split with
    | [], split => cases (List.cons.inj split).1
    | [first], split =>
      obtain ⟨rfl, hrest⟩ := List.cons.inj split
      obtain ⟨hcall, rfl⟩ := List.cons.inj hrest
      injection hcall with hcall
      injection hcall with _ hbag hmanager
      exact ⟨hmanager.symm, [], by rw [hbag, List.nil_append]⟩
    | first :: second :: before, split =>
      obtain ⟨rfl, hrest⟩ := List.cons.inj split
      obtain ⟨rfl, htail⟩ := List.cons.inj hrest
      obtain ⟨hmanager, earlier, rfl⟩ := ih htail
      exact ⟨hmanager, _ :: _ :: earlier, rfl⟩

/-- What stands after an announcement is the start that it announces. -/
theorem announced (h : Announced s j) {before after : Journal F} {logger : Logger} {count : Nat}
    (split : j = before ++ .notice (.endpoint logger (.connectorStarting count)) :: after) :
    ∃ connector bag later,
      after = .call (.start connector bag s.manager) :: later ∧ count = bag.size := by
  induction h generalizing before with
  | nil => simp at split
  | @other entry rest aside _ ih =>
    cases before with
    | nil =>
      obtain ⟨rfl, rfl⟩ := List.cons.inj split
      cases aside
    | cons first before => exact ih (List.cons.inj split).2
  | start connector bag _ ih =>
    match before, split with
    | [], split =>
      obtain ⟨hnotice, hafter⟩ := List.cons.inj split
      injection hnotice with hnotice
      injection hnotice with _ hevent
      injection hevent with hcount
      exact ⟨connector, bag, _, hafter.symm, hcount.symm⟩
    | [first], split =>
      obtain ⟨_, hrest⟩ := List.cons.inj split
      cases (List.cons.inj hrest).1
    | first :: second :: before, split => exact ih (List.cons.inj (List.cons.inj split).2).2

end Announced

@[simp] theorem startCallsIn_append (j j' : Journal F) :
    startCallsIn (j ++ j') = startCallsIn j ++ startCallsIn j' := List.filterMap_append

/-- The starts of one connector in two journals are those in both together. -/
theorem startCallsOf_append (n : Nat) (j j' : Journal F) :
    startCallsOf n (j ++ j') = startCallsOf n j ++ startCallsOf n j' := by
  rw [startCallsOf, startCallsIn_append, List.filter_append]
  rfl

/-- Entries that concern no start of a connector tell of none. -/
theorem startCallsIn_of_aside {j : Journal F} (aside : ∀ entry ∈ j, entry.concernsStart = false) :
    startCallsIn j = [] := by
  refine List.filterMap_eq_nil_iff.mpr fun entry hmem => ?_
  have haside := aside entry hmem
  cases entry with
  | notice notice => rfl
  | call call =>
    cases call with
    | start => cases haside
    | resolve | create | transport | stop => rfl

variable {s : Service F} {env : Surroundings F} {e : Ending} {st st' : State F} {n : Nat}
  {sit sit' : Situation F} {j : Journal F}

section Aside

/-- Reporting a change of phase starts no connector. -/
theorem Service.aside_changes (s : Service F) (p q : Phase) :
    ∀ entry ∈ s.changes p q, entry.concernsStart = false := by
  unfold Service.changes
  cases p.allows q <;> simp [Entry.concernsStart]

/-- A teardown starts no connector. -/
theorem Takedown.aside {o : Outcome Failure Unit} (h : Takedown s env st o st' j) :
    ∀ entry ∈ j, entry.concernsStart = false := by
  cases h with
  | nothing => simp
  | stopped | cut =>
    unfold Service.farewell
    split <;> simp [Entry.concernsStart]

/-- A repair starts no connector. -/
theorem Recovery.aside {o : Outcome Failure Unit} (h : Recovery s env st o st' j) :
    ∀ entry ∈ j, entry.concernsStart = false := by
  cases h with
  | needless => simp
  | mended _ down | cut _ down =>
    intro entry hmem
    rcases List.mem_cons.mp hmem with rfl | hmem
    · rfl
    · exact down.aside entry hmem

/-- A stop starts no connector. -/
theorem Landing.aside {o : Outcome Failure Unit} (h : Landing s env st o st' j) :
    ∀ entry ∈ j, entry.concernsStart = false := by
  have leave : ∀ entry ∈ s.leave st, entry.concernsStart = false := by
    unfold Service.leave
    cases st.phase.isRunning with
    | true => exact s.aside_changes _ _
    | false => exact fun _ hmem => absurd hmem List.not_mem_nil
  cases h with
  | whole down =>
    intro entry hmem
    rw [List.mem_append, List.mem_append] at hmem
    rcases hmem with hmem | hmem | hmem
    · exact leave entry hmem
    · exact down.aside entry hmem
    · exact s.aside_changes _ _ entry hmem
  | cut down =>
    intro entry hmem
    rcases List.mem_append.mp hmem with hmem | hmem
    · exact leave entry hmem
    · exact down.aside entry hmem

end Aside

/-- What is done up to the start of a connector announces it. -/
theorem Service.announced_buildUp (s : Service F) (n : Nat) (binding : String)
    (address : SocketAddress) : Announced s (s.buildUp n binding address) :=
  .other rfl (.other rfl (.start _ _ .nil))

/-- Bringing a connector up announces its start. -/
theorem Ascent.announced {o : Outcome Failure Handle} (h : Ascent s env n o sit j) :
    Announced s j := by
  cases h with
  | unbound | lookup | build => exact .of_aside (by simp [Entry.concernsStart])
  | start => exact s.announced_buildUp ..
  | transport | up => exact (s.announced_buildUp ..).append (.other rfl .nil)

/-- A new attempt announces the start of its connector. -/
theorem Attempt.announced {o : Outcome Failure Handle} (h : Attempt s env n o sit j) :
    Announced s j := by
  cases h with
  | up ascent => exact ascent.announced.append (.of_aside (by simp [Entry.concernsStart]))
  | cut ascent => exact ascent.announced
  | failed ascent down =>
    exact ((ascent.announced.append (.other rfl .nil)).append (.of_aside down.aside)).append
      (.other rfl .nil)
  | cutDown ascent down =>
    exact (ascent.announced.append (.other rfl .nil)).append (.of_aside down.aside)

/-- A start of a service announces the start of its connector. -/
theorem Launch.announced {o : Outcome Failure Handle} (h : Launch s env sit o sit' j) :
    Announced s j := by
  cases h with
  | shown runs => exact .other rfl .nil
  | cut idle repair => exact .of_aside repair.aside
  | anew idle repair ready attempt =>
    exact ((Announced.of_aside repair.aside).append (.other rfl (.other rfl .nil))).append
      attempt.announced

/-- However a request is served, a start of a connector is announced. -/
theorem Served.announced {request : Request F} {o : Outcome Failure Reply}
    (h : Served s sit request o sit' j) : Announced s j := by
  cases h with
  | launched launch => exact launch.announced
  | landed landing => exact .of_aside landing.aside
  | looked => exact .nil

/-- What an operation does to the connector that is held. -/
inductive Delivery (s : Service F) (env : Surroundings F) (sit : Situation F) :
    Situation F → Journal F → Prop
  /-- No connector is started, and one that is held was held before in the same state. -/
  | nobody {sit' : Situation F} {j : Journal F} (none_started : startCallsIn j = [])
      (next : sit'.next = sit.next)
      (held : sit'.state.connector = none ∨ sit'.state = sit.state) : Delivery s env sit sit' j
  /-- The next connector is started with the properties of the address that was found, and if it is
  held the state has the groups of that address. -/
  | fresh {sit' : Situation F} {j : Journal F} {binding : String} {address : SocketAddress}
      (located : s.Located env binding address)
      (built : ∃ before after, j = before ++ s.buildUp sit.next binding address ++ after)
      (started : startCallsIn j = [⟨s.connector sit.next, s.bag address, s.manager⟩])
      (next : sit'.next = sit.next + 1)
      (held : sit'.state.connector = none ∨ ∃ p transport,
        sit'.state = s.laden p (some (s.connector sit.next)) transport address) :
      Delivery s env sit sit' j

namespace Delivery

/-- Something else may happen before. -/
theorem preceded (h : Delivery s env sit sit' j) {before : Journal F}
    (aside : startCallsIn before = []) : Delivery s env sit sit' (before ++ j) := by
  cases h with
  | nobody none_started next held =>
    exact .nobody (by rw [startCallsIn_append, aside, none_started]; rfl) next held
  | fresh located built started next held =>
    obtain ⟨front, back, rfl⟩ := built
    refine .fresh located ⟨before ++ front, back, ?_⟩ ?_ next held
    · simp only [List.append_assoc]
    · rw [startCallsIn_append, aside, started]
      rfl

/-- Something else may happen afterwards. -/
theorem followed (h : Delivery s env sit sit' j) {after : Journal F}
    (aside : startCallsIn after = []) : Delivery s env sit sit' (j ++ after) := by
  cases h with
  | nobody none_started next held =>
    exact .nobody (by rw [startCallsIn_append, aside, none_started]; rfl) next held
  | fresh located built started next held =>
    obtain ⟨front, back, rfl⟩ := built
    refine .fresh located ⟨front, back ++ after, ?_⟩ ?_ next held
    · simp only [List.append_assoc]
    · rw [startCallsIn_append, aside, started]
      rfl

/-- A connector that is let go of is not held. -/
theorem released (h : Delivery s env sit sit' j) (none_held : st.connector = none) :
    Delivery s env sit ⟨st, sit'.next⟩ j := by
  cases h with
  | nobody none_started next held => exact .nobody none_started next (.inl none_held)
  | fresh located built started next held =>
    exact .fresh located built started next (.inl none_held)

end Delivery

/-- Bringing a connector up delivers it the properties of its address, whatever the phase becomes
then. -/
theorem Ascent.delivery {o : Outcome Failure Handle} (h : Ascent s env n o sit j) (st : State F)
    (p : Phase) :
    Delivery s env ⟨st, n⟩ { sit with state := { sit.state with phase := p } } j := by
  cases h with
  | unbound | lookup | build => exact .nobody rfl rfl (.inl rfl)
  | start located built halt => exact .fresh located ⟨[], [], by simp⟩ rfl rfl (.inr ⟨p, _, rfl⟩)
  | transport located built started halt | up located built started shown =>
    exact .fresh located ⟨[], _, rfl⟩ rfl rfl (.inr ⟨p, _, rfl⟩)

/-- A new attempt delivers the properties of its address. -/
theorem Attempt.delivery {o : Outcome Failure Handle} (h : Attempt s env n o sit j)
    (st : State F) : Delivery s env ⟨st, n⟩ sit j := by
  cases h with
  | up ascent => exact (ascent.delivery st .running).followed rfl
  | @cut m sit j ascent => exact ascent.delivery st sit.state.phase
  | @failed f sit st' j j' ascent down =>
    have delivery : Delivery s env ⟨st, n⟩ ⟨{ phase := .failed }, sit.next⟩ j :=
      (ascent.delivery st .failed).released rfl
    exact ((delivery.followed rfl).followed (startCallsIn_of_aside down.aside)).followed rfl
  | @cutDown f m sit st' j j' ascent down =>
    have delivery : Delivery s env ⟨st, n⟩ ⟨st', sit.next⟩ j :=
      (ascent.delivery st .failed).released down.connector_eq_none
    exact (delivery.followed rfl).followed (startCallsIn_of_aside down.aside)

/-- A start of a service delivers the properties of its address, if it is made at all. -/
theorem Launch.delivery {o : Outcome Failure Handle} (h : Launch s env sit o sit' j) :
    Delivery s env sit sit' j := by
  cases h with
  | shown runs => exact .nobody rfl rfl (.inr rfl)
  | cut idle repair =>
    refine .nobody (startCallsIn_of_aside repair.aside) rfl (.inl ?_)
    cases repair with
    | cut _ down => exact down.connector_eq_none
  | anew idle repair ready attempt =>
    refine (attempt.delivery sit.state).preceded ?_
    rw [startCallsIn_append, startCallsIn_of_aside repair.aside]
    rfl

/-- A stop lets go of the connector. -/
theorem Landing.delivery {o : Outcome Failure Unit} (h : Landing s env sit.state o st j) :
    Delivery s env sit ⟨st, sit.next⟩ j := by
  exact .nobody (startCallsIn_of_aside h.aside) rfl (.inl h.connector_eq_none)

/-- However a request is served, a connector that is started gets the properties of the address that
was found, and only a start does that. -/
theorem Served.delivery {request : Request F} {o : Outcome Failure Reply}
    (h : Served s sit request o sit' j) :
    Delivery s request.env sit sit' j ∧
      (startCallsIn j ≠ [] → request.operation = .start) := by
  cases h with
  | launched launch => exact ⟨launch.delivery, fun _ => rfl⟩
  | landed landing =>
    exact ⟨landing.delivery, fun h => absurd (startCallsIn_of_aside landing.aside) h⟩
  | looked => exact ⟨.nobody rfl rfl (.inr rfl), fun h => absurd rfl h⟩

/-- How the connector that is held came to be started: in one of the turns of a run, at an address
that was found then, and never again. -/
structure Run.Supplied (run : Run F) (s : Service F) (connector : Instance F) (binding : String)
    (address : SocketAddress) : Prop where
  /-- The service's own factory built it. -/
  own : connector = s.connector connector.number
  /-- A start found the address, and started the connector for it. -/
  attempted : ∃ turn ∈ run.turns, turn.request.operation = .start ∧
    s.Located turn.request.env binding address ∧
    ∃ before after, turn.journal = before ++ s.buildUp connector.number binding address ++ after
  /-- It was started once, with the properties of the address. -/
  once : startCallsOf connector.number run.journal = [⟨connector, s.bag address, s.manager⟩]
  /-- The state holds the groups of the same address. -/
  kept : run.situation.state.connectorBag = s.settings.connectorProperties (some address) ∧
    run.situation.state.transferBag = s.settings.transferProperties

/-- Only connectors with numbers that were given out were started. -/
def Run.StartedBefore (run : Run F) : Prop :=
  ∀ start ∈ startCallsIn run.journal, start.connector.number < run.situation.next

variable {run : Run F} {turn : Turn F} {connector : Instance F} {binding : String}
  {address : SocketAddress}

/-- A connector keeps what it was started with while no other one is started and the state stays. -/
theorem Run.Supplied.later (known : run.Supplied s connector binding address)
    (none_started : startCallsIn turn.journal = []) (same : sit'.state = run.situation.state) :
    (Run.mk sit' (run.turns ++ [turn])).Supplied s connector binding address := by
  obtain ⟨earlier, hmem, attempt⟩ := known.attempted
  refine ⟨known.own, ⟨earlier, List.mem_append_left _ hmem, attempt⟩, ?_, ?_⟩
  · rw [run.journal_snoc, startCallsOf_append, known.once, startCallsOf, none_started]
    rfl
  · rw [same]
    exact known.kept

/-- A connector that was just started, with a number not given out before, has what it was started
with. -/
theorem Run.StartedBefore.supplied (earlier : run.StartedBefore)
    (operation : turn.request.operation = .start)
    (located : s.Located turn.request.env binding address)
    (built : ∃ before after,
      turn.journal = before ++ s.buildUp run.situation.next binding address ++ after)
    (started : startCallsIn turn.journal =
      [⟨s.connector run.situation.next, s.bag address, s.manager⟩])
    {p : Phase} {transport : Option Transport}
    (state : sit'.state = s.laden p (some (s.connector run.situation.next)) transport address) :
    (Run.mk sit' (run.turns ++ [turn])).Supplied s (s.connector run.situation.next) binding
      address := by
  have unseen : startCallsOf run.situation.next run.journal = [] := by
    refine List.filter_eq_nil_iff.mpr fun start hmem => ?_
    have hnumber := earlier start hmem
    simp only [decide_eq_true_eq]
    omega
  have inTurns : turn ∈ run.turns ++ [turn] := List.mem_append_right _ List.mem_cons_self
  refine ⟨rfl, ⟨turn, inTurns, operation, located, built⟩, ?_, ?_⟩
  · change startCallsOf run.situation.next _ = _
    rw [run.journal_snoc, startCallsOf_append, unseen, startCallsOf, started]
    simp [Service.connector]
  · rw [state]
    exact ⟨rfl, rfl⟩

/-- After every run only connectors with earlier numbers were started, and the one that is held was
started with what the state still holds. -/
theorem run_supplied (s : Service F) (first : Nat) (requests : List (Request F)) :
    let run := s.run first requests
    run.StartedBefore ∧ ∀ connector, run.situation.state.connector = some connector →
      ∃ binding address, run.Supplied s connector binding address := by
  refine run_served_induction (motive := fun run =>
    run.StartedBefore ∧ ∀ connector, run.situation.state.connector = some connector →
      ∃ binding address, run.Supplied s connector binding address) ?_ ?_ requests
  · exact ⟨fun start hmem => absurd hmem List.not_mem_nil, fun connector held => by cases held⟩
  intro run request o sit' j _ ⟨earlier, supplied⟩ served
  obtain ⟨delivery, starts⟩ := served.delivery
  cases delivery with
  | nobody none_started next held =>
    constructor
    · rw [Run.StartedBefore, run.journal_snoc, startCallsIn_append, none_started, List.append_nil,
        next]
      exact earlier
    · intro connector hconnector
      rcases held with hnone | hsame
      · rw [hnone] at hconnector
        cases hconnector
      · rw [hsame] at hconnector
        obtain ⟨binding, address, known⟩ := supplied connector hconnector
        exact ⟨binding, address, known.later none_started hsame⟩
  | @fresh binding address located built started next held =>
    constructor
    · intro start hmem
      rw [run.journal_snoc, startCallsIn_append, started, List.mem_append, List.mem_singleton]
        at hmem
      rw [next]
      rcases hmem with hmem | rfl
      · exact Nat.lt_succ_of_lt (earlier start hmem)
      · exact Nat.lt_succ_self _
    · intro connector hconnector
      rcases held with hnone | ⟨p, transport, hladen⟩
      · rw [hnone] at hconnector
        cases hconnector
      · rw [hladen] at hconnector
        obtain rfl : s.connector run.situation.next = connector := Option.some.inj hconnector
        have operation : request.operation = .start := by
          apply starts
          rw [started]
          exact List.cons_ne_nil _ _
        exact ⟨binding, address, earlier.supplied operation located built started hladen⟩

/-- Every start of a run was announced. -/
theorem run_announced (s : Service F) (first : Nat) (requests : List (Request F)) :
    Announced s (s.run first requests).journal := by
  refine run_served_induction (motive := fun run => Announced s run.journal) .nil ?_ requests
  intro run request o sit' j _ announced served
  rw [run.journal_snoc]
  exact announced.append served.announced

/-- While a service runs, a client that asks for the properties gets just what the connector was
started with, once, by the start that found the address: the properties of that address with the
state transfer group merged into them. Every start of a connector gets the cache manager of the
service and stands right after its announcement, which tells the size of the bag, and nothing else
is announced. -/
theorem properties_are_in_force (s : Service F) (first : Nat) (requests : List (Request F)) :
    let run := s.run first requests
    let st := run.situation.state
    (st.phase = .running → ∃ connector binding address,
      let bag := (s.settings.connectorProperties (some address)).merge s.settings.transferProperties
      st.connector = some connector ∧
      (∃ turn ∈ run.turns, turn.request.operation = .start ∧
        s.settings.socketBinding = some binding ∧
        turn.request.env.resolve binding = .ok address ∧
        ∃ before after, turn.journal =
          before ++ [.call (.resolve binding), .call (.create s.factory (some connector.number)),
            .notice (.endpoint s.logger (.connectorStarting bag.size)),
            .call (.start connector bag s.manager)] ++ after) ∧
      startCallsOf connector.number run.journal = [⟨connector, bag, s.manager⟩] ∧
      ∀ env, s.serve ⟨.properties, env⟩ run.situation =
        (.ok (.properties bag), run.situation, [])) ∧
    (∀ before connector bag manager after,
      run.journal = before ++ .call (.start connector bag manager) :: after →
        manager = s.manager ∧ ∃ earlier,
          before = earlier ++ [.notice (.endpoint s.logger (.connectorStarting bag.size))]) ∧
    (∀ before logger count after,
      run.journal = before ++ .notice (.endpoint logger (.connectorStarting count)) :: after →
        ∃ connector bag later,
          after = .call (.start connector bag s.manager) :: later ∧ count = bag.size) := by
  intro run st
  have announced : Announced s run.journal := run_announced s first requests
  refine ⟨?_, ?_, ?_⟩
  · intro running
    obtain ⟨connector, transport, address', hst⟩ :=
      (run_shape s first requests).of_running running
    have held : st.connector = some connector := by
      change run.situation.state.connector = _
      rw [hst]
      rfl
    obtain ⟨binding, address, supplied⟩ := (run_supplied s first requests).2 connector held
    obtain ⟨turn, hturn, hstart, located, before, after, hjournal⟩ := supplied.attempted
    refine ⟨connector, binding, address, held, ⟨turn, hturn, hstart, located.named, located.found,
      before, after, ?_⟩, supplied.once, ?_⟩
    · rw [hjournal, Service.buildUp, ← supplied.own]
      rfl
    · intro env
      have hbag : st.properties =
          (s.settings.connectorProperties (some address)).merge s.settings.transferProperties := by
        rw [State.properties, supplied.kept.1, supplied.kept.2]
      rw [← hbag]
      rfl
  · intro before connector bag manager after split
    exact announced.announcement split
  · intro before logger count after split
    exact announced.announced split

end ConnectorLifecycle
