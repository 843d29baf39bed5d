import ConnectorLifecycle.Proofs.Renewal

/-!
# What a start depends on

A start of a service asks for one binding, one factory, the connector that this factory builds, and
a connector that the service may hold. If these answer alike in two situations that differ in
nothing but the number of the next connector, the two starts are alike: they end in the same way,
leave the same behind and show the same in their journals, with one number read for the other. No
situation that a service comes to knows of a number that is not given yet.
-/

namespace ConnectorLifecycle

variable {F : Type} {s : Service F} {env env' : Surroundings F} {ρ : Nat → Nat} {n n' : Nat}
  {st st' : State F} {sit sit' : Situation F} {j : Journal F}

section Renumbering

/-- A repair goes the same way under other numbers. -/
theorem Recovery.renumber {o : Outcome Failure Unit} (h : Recovery s (env.under ρ) st o st' j) :
    Recovery s env (st.renumber ρ) o (st'.renumber ρ) (j.map (Entry.renumber ρ)) := by
  cases h with
  | needless settled => exact .needless settled
  | mended interrupted down => exact .mended interrupted down.renumber
  | cut interrupted down => exact .cut interrupted down.renumber

/-- The handle that is shown has the number of the connector. -/
theorem Service.runningHandle?_renumber (s : Service F) (ρ : Nat → Nat) (st : State F) :
    s.runningHandle? (st.renumber ρ) = (s.runningHandle? st).map (Handle.renumber ρ) := by
  obtain ⟨phase, connector, transport, connectorBag, transferBag⟩ := st
  cases phase <;> cases transport <;> rfl

/-- A start goes the same way under other numbers. -/
theorem Launch.renumber {o : Outcome Failure Handle} (h : Launch s (env.under ρ) sit o sit' j)
    (next : ρ (sit.next + 1) = ρ sit.next + 1) :
    Launch s env (sit.renumber ρ) (o.map (Handle.renumber ρ)) (sit'.renumber ρ)
      (j.map (Entry.renumber ρ)) := by
  have idle (h : s.runningHandle? sit.state = none) :
      s.runningHandle? (sit.renumber ρ).state = none :=
    (s.runningHandle?_renumber ρ sit.state).trans (congrArg _ h)
  cases h with
  | shown runs => exact .shown ((s.runningHandle?_renumber ρ sit.state).trans (congrArg _ runs))
  | cut hidle repair => exact .cut (idle hidle) repair.renumber
  | anew hidle repair ready attempt =>
    rw [List.map_append, List.map_append]
    exact .anew (idle hidle) repair.renumber ready (attempt.renumber next)

end Renumbering

/-- Two surroundings answer alike whatever a start of a service in a state may ask, the connector
that is built having one number there and another one here. -/
structure Service.Alike (s : Service F) (st : State F) (env : Surroundings F) (n : Nat)
    (env' : Surroundings F) (n' : Nat) : Prop where
  /-- The binding of the settings. -/
  resolve : ∀ binding, s.settings.socketBinding = some binding →
    env'.resolve binding = env.resolve binding
  /-- The factory. -/
  create : env'.create s.factory = env.create s.factory
  /-- The start of the new connector. -/
  start : ∀ address, env'.start (s.connector n') (s.bag address) s.manager =
    env.start (s.connector n) (s.bag address) s.manager
  /-- Its transport. -/
  transport : ∀ address, env'.transport (s.connector n') (s.bag address) =
    env.transport (s.connector n) (s.bag address)
  /-- Its stop, if the start fails. -/
  stop : env'.stop (s.connector n') = env.stop (s.connector n)
  /-- The stop of a connector that is held. -/
  held : ∀ connector, st.connector = some connector → env'.stop connector = env.stop connector

section Congruence

/-- A teardown depends on nothing but the stop of the connector that is held. -/
theorem Takedown.congr {o : Outcome Failure Unit} (h : Takedown s env st o st' j)
    (stops : ∀ connector, st.connector = some connector →
      env'.stop connector = env.stop connector) : Takedown s env' st o st' j := by
  cases h with
  | nothing none_held => exact .nothing none_held
  | stopped held answered =>
    rw [← stops _ held] at answered ⊢
    exact .stopped held answered
  | cut held unwound => exact .cut held ((stops _ held).trans unwound)

/-- A repair depends on nothing else. -/
theorem Recovery.congr {o : Outcome Failure Unit} (h : Recovery s env st o st' j)
    (stops : ∀ connector, st.connector = some connector →
      env'.stop connector = env.stop connector) : Recovery s env' st o st' j := by
  cases h with
  | needless settled => exact .needless settled
  | mended interrupted down => exact .mended interrupted (down.congr stops)
  | cut interrupted down => exact .cut interrupted (down.congr stops)

/-- The address depends on the binding of the settings. -/
theorem Service.Located.congr {binding : String} {address : SocketAddress}
    (h : s.Located env binding address) (alike : s.Alike st env n env' n') :
    s.Located env' binding address :=
  ⟨h.named, (alike.resolve binding h.named).trans h.found⟩

/-- Bringing a connector up depends on the binding, the factory and the new connector. -/
theorem Ascent.congr {o : Outcome Failure Handle} (h : Ascent s env n o sit j)
    (alike : s.Alike st env n env' n) : Ascent s env' n o sit j := by
  cases h with
  | unbound unnamed => exact .unbound unnamed
  | lookup named halt => exact .lookup named (alike.resolve _ named ▸ halt)
  | build located halt => exact .build (located.congr alike) (alike.create ▸ halt)
  | start located built halt =>
    exact .start (located.congr alike) (alike.create.trans built) (alike.start _ ▸ halt)
  | transport located built started halt =>
    exact .transport (located.congr alike) (alike.create.trans built)
      ((alike.start _).trans started) (alike.transport _ ▸ halt)
  | up located built started shown =>
    exact .up (located.congr alike) (alike.create.trans built) ((alike.start _).trans started)
      ((alike.transport _).trans shown)

/-- A failed ascent holds no connector but the new one, so taking it down depends on the stop of
that one. -/
theorem Ascent.stops_of_alike {f : Failure} (h : Ascent s env n (.error f) sit j)
    (alike : s.Alike st env n env' n) (connector : Instance F)
    (held : sit.state.connector = some connector) : env'.stop connector = env.stop connector := by
  obtain ⟨address, rfl⟩ := h.state_of_error (by rw [held]; rfl)
  cases held
  exact alike.stop

/-- A new attempt depends on the binding, the factory and the new connector. -/
theorem Attempt.congr {o : Outcome Failure Handle} (h : Attempt s env n o sit j)
    (alike : s.Alike st env n env' n) : Attempt s env' n o sit j := by
  cases h with
  | up ascent => exact .up (ascent.congr alike)
  | cut ascent => exact .cut (ascent.congr alike)
  | failed ascent down =>
    exact .failed (ascent.congr alike) (down.congr (ascent.stops_of_alike alike))
  | cutDown ascent down =>
    exact .cutDown (ascent.congr alike) (down.congr (ascent.stops_of_alike alike))

/-- A start depends on nothing but what is alike. -/
theorem Launch.congr {o : Outcome Failure Handle} (h : Launch s env sit o sit' j)
    (alike : s.Alike sit.state env sit.next env' sit.next) : Launch s env' sit o sit' j := by
  cases h with
  | shown runs => exact .shown runs
  | cut idle repair => exact .cut idle (repair.congr alike.held)
  | anew idle repair ready attempt =>
    exact .anew idle (repair.congr alike.held) ready (attempt.congr alike)

end Congruence

section Numbers

/-- A state knows of no number from a given one on. -/
structure State.Below (st : State F) (n : Nat) : Prop where
  /-- The connector was built before. -/
  connector : ∀ connector, st.connector = some connector → connector.number < n
  /-- The transport is that of a connector built before. -/
  transport : ∀ transport, st.transport = some transport → transport.connector < n

/-- What is below a number is below every greater one. -/
theorem State.Below.mono (h : st.Below n) (le : n ≤ n') : st.Below n' where
  connector connector held := Nat.lt_of_lt_of_le (h.connector connector held) le
  transport transport held := Nat.lt_of_lt_of_le (h.transport transport held) le

/-- A state that holds nothing is below every number. -/
theorem State.below_clear (p : Phase) (n : Nat) : ({ phase := p } : State F).Below n :=
  ⟨nofun, nofun⟩

/-- A teardown keeps a state below a number. -/
theorem Takedown.below {o : Outcome Failure Unit} (h : Takedown s env st o st' j)
    (below : st.Below n) : st'.Below n := by
  cases h with
  | nothing | stopped => exact State.below_clear _ n
  | cut => exact ⟨nofun, below.transport⟩

/-- Bringing a connector up gives it the next number. -/
theorem Ascent.below {o : Outcome Failure Handle} (h : Ascent s env n o sit j) :
    n ≤ sit.next ∧ sit.state.Below sit.next := by
  cases h with
  | unbound => exact ⟨Nat.le_refl _, nofun, nofun⟩
  | lookup => exact ⟨Nat.le_refl _, State.below_clear _ n⟩
  | build => exact ⟨Nat.le_refl _, nofun, nofun⟩
  | start | transport =>
    refine ⟨Nat.le_succ _, fun c held => ?_, nofun⟩
    cases held
    exact Nat.lt_succ_self _
  | up =>
    refine ⟨Nat.le_succ _, fun c held => ?_, fun t held => ?_⟩
    · cases held
      exact Nat.lt_succ_self _
    · cases held
      exact Nat.lt_succ_self _

/-- A new attempt gives its connector the next number. -/
theorem Attempt.below {o : Outcome Failure Handle} (h : Attempt s env n o sit j) :
    n ≤ sit.next ∧ sit.state.Below sit.next := by
  cases h with
  | up ascent => exact ⟨ascent.below.1, ascent.below.2.connector, ascent.below.2.transport⟩
  | cut ascent => exact ascent.below
  | failed ascent => exact ⟨ascent.below.1, State.below_clear _ _⟩
  | cutDown ascent down => exact ⟨ascent.below.1, down.below ascent.below.2⟩

/-- A start keeps all numbers below the next one. -/
theorem Launch.below {o : Outcome Failure Handle} (h : Launch s env sit o sit' j)
    (below : sit.state.Below sit.next) : sit.next ≤ sit'.next ∧ sit'.state.Below sit'.next := by
  cases h with
  | shown => exact ⟨Nat.le_refl _, below⟩
  | cut idle repair =>
    cases repair with
    | cut interrupted down => exact ⟨Nat.le_refl _, down.below below⟩
  | anew idle repair ready attempt => exact attempt.below

/-- A stop keeps all numbers below the next one. -/
theorem Landing.below {o : Outcome Failure Unit} (h : Landing s env st o st' j)
    (below : st.Below n) : st'.Below n := by
  have left : st.leaving.Below n := by
    unfold State.leaving
    cases st.phase.isRunning with
    | true => exact ⟨below.connector, below.transport⟩
    | false => exact below
  cases h with
  | whole => exact State.below_clear _ n
  | cut down => exact down.below left

/-- Whatever is served keeps all numbers below the next one. -/
theorem Served.below {request : Request F} {o : Outcome Failure Reply}
    (h : Served s sit request o sit' j) (below : sit.state.Below sit.next) :
    sit.next ≤ sit'.next ∧ sit'.state.Below sit'.next := by
  cases h with
  | launched launch => exact launch.below below
  | landed landing => exact ⟨Nat.le_refl _, landing.below below⟩
  | looked => exact ⟨Nat.le_refl _, below⟩

end Numbers

/-- Keep the numbers below a first one, and begin the others with another one. -/
def renew (n n' k : Nat) : Nat := if k < n then k else shift n n' k

theorem renew_of_lt {k : Nat} (h : k < n) : renew n n' k = k := if_pos h

theorem renew_self (n n' : Nat) : renew n n' n = n' := by
  rw [renew, if_neg (Nat.lt_irrefl n), shift_self]

theorem renew_succ (n n' : Nat) : renew n n' (n + 1) = n' + 1 := by
  rw [renew, if_neg (Nat.not_lt.mpr (Nat.le_succ n)), shift_succ]

/-- A state below a number keeps all its numbers. -/
theorem State.Below.renumber_eq (h : st.Below n) (n' : Nat) : st.renumber (renew n n') = st := by
  have hconnector : st.connector.map (Instance.renumber (renew n n')) = st.connector := by
    cases held : st.connector with
    | none => rfl
    | some connector =>
      rw [Option.map_some, Instance.renumber, renew_of_lt (h.connector connector held)]
  have htransport : st.transport.map (Transport.renumber (renew n n')) = st.transport := by
    cases held : st.transport with
    | none => rfl
    | some transport =>
      rw [Option.map_some, Transport.renumber, renew_of_lt (h.transport transport held)]
  rw [State.renumber, hconnector, htransport]

/-- The new connector under the other number. -/
theorem Service.connector_renew (s : Service F) (n n' : Nat) :
    (s.connector n).renumber (renew n n') = s.connector n' := congrArg _ (renew_self n n')

/-- Surroundings that answer alike for two numbers answer alike for one of them, if the other is
read for it. -/
theorem Service.Alike.under (h : s.Alike st env n env' n') (below : st.Below n) :
    s.Alike st env n (env'.under (renew n n')) n where
  resolve := h.resolve
  create := h.create
  start address := by
    rw [← h.start address, ← s.connector_renew n n']
    rfl
  transport address := by
    rw [← h.transport address, ← s.connector_renew n n']
    rfl
  stop := by
    rw [← h.stop, ← s.connector_renew n n']
    rfl
  held connector held := by
    have hconnector : connector.renumber (renew n n') = connector := by
      rw [Instance.renumber, renew_of_lt (below.connector connector held)]
    rw [← h.held connector held]
    exact congrArg env'.stop hconnector

/-- Two starts that see the same are alike, up to the number of the new connector. -/
theorem Launch.alike {o : Outcome Failure Handle} (h : Launch s env ⟨st, n⟩ o sit j)
    (alike : s.Alike st env n env' n') (below : st.Below n) :
    Launch s env' ⟨st, n'⟩ (o.map (Handle.renumber (renew n n'))) (sit.renumber (renew n n'))
      (j.map (Entry.renumber (renew n n'))) := by
  -- First the other collaborators under the old number, then the new number.
  have again := (h.congr (alike.under below)).renumber
    ((renew_succ n n').trans (congrArg (· + 1) (renew_self n n').symm))
  have hsit : (Situation.mk st n).renumber (renew n n') = ⟨st, n'⟩ := by
    rw [Situation.renumber, below.renumber_eq n', renew_self]
  rwa [hsit] at again

/-- The situations of a service whose requests are served while other services are served as well,
which take numbers of connectors too. -/
inductive Service.Reachable (s : Service F) : Situation F → Prop
  /-- The service was just built. -/
  | built (first : Nat) : s.Reachable ⟨{}, first⟩
  /-- Connectors of other services were built. -/
  | later {st : State F} {n n' : Nat} (before : s.Reachable ⟨st, n⟩) (le : n ≤ n') :
      s.Reachable ⟨st, n'⟩
  /-- A request was served, whatever came of it. -/
  | served {sit : Situation F} (before : s.Reachable sit) (request : Request F) :
      s.Reachable (s.serve request sit).2.1

/-- What a request leaves behind is what the way in which it is served leaves behind. -/
theorem Served.serve_situation {request : Request F} {o : Outcome Failure Reply}
    (h : Served s sit request o sit' j) : (s.serve request sit).2.1 = sit' := by
  cases h with
  | @launched env o sit' j launch =>
    cases o <;> simp [Service.serve, Step.bind_apply, launch.eval]
  | @landed env o st' j landing =>
    have heval := landing.eval sit.next
    cases o <;> simp [Service.serve, Step.bind_apply, heval]
  | looked looks =>
    obtain ⟨o, heval⟩ := s.serve_of_looks looks sit
    rw [heval]

/-- What a service comes to has a shape and no number from the next one on. -/
theorem Service.Reachable.sound (h : s.Reachable sit) :
    (∃ e, Shape s e sit.state) ∧ sit.state.Below sit.next := by
  induction h with
  | built first => exact ⟨⟨.whole, .clear rfl⟩, State.below_clear _ _⟩
  | later before le ih => exact ⟨ih.1, ih.2.mono le⟩
  | @served sit before request ih =>
    obtain ⟨⟨e, shape⟩, below⟩ := ih
    obtain ⟨o, sit', j, heval, served⟩ := s.serve_served request sit shape.eq_clear
    rw [heval]
    exact ⟨⟨_, shape.served served⟩, (served.below below).2⟩

end ConnectorLifecycle
