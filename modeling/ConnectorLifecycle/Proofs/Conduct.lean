import ConnectorLifecycle.Proofs.Shape

/-!
# The lives of connectors

What a journal tells of connectors is a list of `Deed`s, each with the number of its connector. A
connector that is built is started, is shown if the start succeeded, and is stopped once. `Lives`
says that the deeds of a service are such lives one after the other, the last of them open while a
connector is held. Every end of a start and of a stop adds to the lives in this way, also one that
unwinds, so after every run no connector was forgotten, called out of turn or stopped twice.
-/

namespace ConnectorLifecycle

variable {F : Type}

/-- What is done to a connector. -/
inductive Deed where
  /-- Its factory built it. -/
  | built
  /-- It was started, and the start succeeded or not. -/
  | started (succeeded : Bool)
  /-- It was asked for its transport. -/
  | shown
  /-- It was stopped, however the stop ended. -/
  | stopped
  deriving DecidableEq, Repr

/-- What an entry of a journal says that was done to a connector. -/
def Entry.deed? (env : Surroundings F) : Entry F → Option (Nat × Deed)
  | .call (.create _ (some n)) => some (n, .built)
  | .call (.start connector bag manager) =>
    some (connector.number, .started (env.start connector bag manager).isOk)
  | .call (.transport connector) => some (connector.number, .shown)
  | .call (.stop connector) => some (connector.number, .stopped)
  | .call (.create _ none) | .call (.resolve _) | .notice _ => none

/-- What was done to connectors, in order. -/
def Surroundings.deeds (env : Surroundings F) (journal : Journal F) : List (Nat × Deed) :=
  journal.filterMap (Entry.deed? env)

/-- What was done to connectors during a run. -/
def Run.deeds (run : Run F) : List (Nat × Deed) :=
  run.turns.flatMap fun turn => turn.request.env.deeds turn.journal

/-- What was done to the connector of a number. -/
def deedsOf (n : Nat) (deeds : List (Nat × Deed)) : List Deed :=
  deeds.filterMap fun (m, deed) => if m = n then some deed else none

/-- What is done to a connector when a service brings it up. -/
def Deed.introduction (succeeded : Bool) : List Deed :=
  [built, started succeeded] ++ if succeeded then [shown] else []

/-- All that is done to a connector; its stop is still to come while it is held. -/
def Deed.life (succeeded held : Bool) : List Deed :=
  introduction succeeded ++ if held then [] else [stopped]

/-- Whether the connector of a number is held. -/
def State.holds (st : State F) (n : Nat) : Bool :=
  st.connector.any fun connector => connector.number = n

theorem deedsOf_append (n : Nat) (deeds deeds' : List (Nat × Deed)) :
    deedsOf n (deeds ++ deeds') = deedsOf n deeds ++ deedsOf n deeds' :=
  List.filterMap_append

/-- A deed is one of a connector if it was done to it. -/
theorem mem_deedsOf {n : Nat} {deed : Deed} {deeds : List (Nat × Deed)} :
    deed ∈ deedsOf n deeds ↔ (n, deed) ∈ deeds := by
  rw [deedsOf, List.mem_filterMap]
  constructor
  · rintro ⟨⟨m, deed'⟩, hmem, h⟩
    obtain ⟨rfl, rfl⟩ : m = n ∧ deed' = deed := by simpa using h
    exact hmem
  · exact fun h => ⟨_, h, if_pos rfl⟩

/-- A single deed is done to its own connector. -/
theorem deedsOf_singleton (n m : Nat) (deed : Deed) :
    deedsOf n [(m, deed)] = if m = n then [deed] else [] := by
  by_cases h : m = n
  · simp [deedsOf, h]
  · simp [deedsOf, h]

/-- What is done to one connector is done to it. -/
theorem deedsOf_map_self (n : Nat) (deeds : List Deed) :
    deedsOf n (deeds.map (n, ·)) = deeds := by
  induction deeds with
  | nil => rfl
  | cons deed rest ih =>
    rw [List.map_cons, ← List.singleton_append, deedsOf_append, deedsOf_singleton, if_pos rfl, ih]
    rfl

/-- What is done to one connector is done to no other. -/
theorem deedsOf_map_of_ne {m n : Nat} (h : m ≠ n) (deeds : List Deed) :
    deedsOf m (deeds.map (n, ·)) = [] := by
  induction deeds with
  | nil => rfl
  | cons deed rest ih =>
    rw [List.map_cons, ← List.singleton_append, deedsOf_append, deedsOf_singleton,
      if_neg h.symm, ih]
    rfl

/-- What later turns did comes after what a run did. -/
theorem Run.deeds_append (run : Run F) (sit' : Situation F) (turns : List (Turn F)) :
    (Run.mk sit' (run.turns ++ turns)).deeds = run.deeds ++ (Run.mk sit' turns).deeds :=
  List.flatMap_append

/-- A further turn adds its deeds. -/
theorem Run.deeds_snoc (run : Run F) (sit' : Situation F) (turn : Turn F) :
    (Run.mk sit' (run.turns ++ [turn])).deeds =
      run.deeds ++ turn.request.env.deeds turn.journal := by
  simp [Run.deeds]

/-- A place in a list that was appended to is in the list or in what was appended. -/
theorem place_in_append {α : Type} {list added before after : List α} {x : α}
    (split : list ++ added = before ++ x :: after) :
    (∃ rest, list = before ++ x :: rest) ∨
      ∃ rest, before = list ++ rest ∧ added = rest ++ x :: after := by
  rcases List.append_eq_append_iff.mp split with ⟨rest, rfl, hrest⟩ | ⟨rest, rfl, hrest⟩
  · exact .inr ⟨rest, rfl, hrest⟩
  · cases rest with
    | nil => exact .inr ⟨[], by simp, hrest.symm⟩
    | cons y rest =>
      obtain ⟨rfl, _⟩ := List.cons.inj hrest
      exact .inl ⟨rest, rfl⟩

/-- The deeds of a service whose connectors are numbered from a first number on, by the next number
and the connector that is held. -/
inductive Lives (s : Service F) (first : Nat) :
    Nat → Option (Instance F) → List (Nat × Deed) → Prop
  /-- No connector was built yet. -/
  | nobody : Lives s first first none []
  /-- The next connector was built and brought up, as nobody was held. -/
  | born {n : Nat} {deeds : List (Nat × Deed)} (lives : Lives s first n none deeds)
      (succeeded : Bool) :
      Lives s first (n + 1) (some (s.connector n))
        (deeds ++ (Deed.introduction succeeded).map (n, ·))
  /-- The connector that was held was stopped. -/
  | gone {n : Nat} {connector : Instance F} {deeds : List (Nat × Deed)}
      (lives : Lives s first n (some connector) deeds) :
      Lives s first n none (deeds ++ [(connector.number, .stopped)])

namespace Lives

variable {s : Service F} {first n m : Nat} {held : Option (Instance F)}
  {deeds : List (Nat × Deed)}

/-- Numbers only grow. -/
theorem first_le (h : Lives s first n held deeds) : first ≤ n := by
  induction h with
  | nobody => exact Nat.le_refl _
  | born _ _ ih => exact Nat.le_succ_of_le ih
  | gone _ ih => exact ih

/-- Only the newest connector is held, and the service's own factory built it. -/
theorem eq_connector {connector : Instance F} (h : Lives s first n (some connector) deeds) :
    connector = s.connector connector.number ∧ first ≤ connector.number ∧
      n = connector.number + 1 := by
  cases h with
  | born lives succeeded => exact ⟨rfl, lives.first_le, rfl⟩

/-- Nothing is done to a connector that was not built. -/
theorem deedsOf_eq_nil (h : Lives s first n held deeds) (out : m < first ∨ n ≤ m) :
    deedsOf m deeds = [] := by
  induction h with
  | nobody => rfl
  | @born n deeds lives succeeded ih =>
    have hm : m ≠ n := by have := lives.first_le; omega
    rw [deedsOf_append, ih (by omega), deedsOf_map_of_ne hm]
    rfl
  | gone lives ih =>
    obtain ⟨_, hfirst, hnext⟩ := lives.eq_connector
    rw [deedsOf_append, ih out, deedsOf_singleton, if_neg (by omega)]
    rfl

/-- A connector that was built lives a life, which is open while it is held. -/
theorem exists_life (h : Lives s first n held deeds) (hfirst : first ≤ m) (hnext : m < n) :
    ∃ succeeded, deedsOf m deeds =
      Deed.life succeeded (held.any fun connector => connector.number = m) := by
  induction h with
  | nobody => omega
  | @born n deeds lives succeeded ih =>
    by_cases hm : m = n
    · subst hm
      refine ⟨succeeded, ?_⟩
      rw [deedsOf_append, lives.deedsOf_eq_nil (.inr (Nat.le_refl _)), deedsOf_map_self]
      simp [Deed.life, Service.connector]
    · obtain ⟨earlier, hlife⟩ := ih (by omega)
      refine ⟨earlier, ?_⟩
      rw [deedsOf_append, hlife, deedsOf_map_of_ne hm]
      simp [Service.connector, Ne.symm hm]
  | @gone n connector deeds lives ih =>
    obtain ⟨succeeded, hlife⟩ := ih hnext
    refine ⟨succeeded, ?_⟩
    rw [deedsOf_append, hlife, deedsOf_singleton]
    by_cases hm : connector.number = m
    · simp [Deed.life, hm]
    · simp [hm]

/-- Only to a connector that was built is anything done. -/
theorem range_of_mem {deed : Deed} (h : Lives s first n held deeds) (hmem : (m, deed) ∈ deeds) :
    first ≤ m ∧ m < n := by
  by_cases hrange : first ≤ m ∧ m < n
  · exact hrange
  · rw [← mem_deedsOf, h.deedsOf_eq_nil (by omega)] at hmem
    cases hmem

/-- The connectors that were built are those with a number from the first up to the next. -/
theorem built_iff (h : Lives s first n held deeds) :
    (m, Deed.built) ∈ deeds ↔ first ≤ m ∧ m < n := by
  constructor
  · exact h.range_of_mem
  · rintro ⟨hfirst, hnext⟩
    obtain ⟨succeeded, hlife⟩ := h.exists_life hfirst hnext
    rw [← mem_deedsOf, hlife]
    exact List.mem_cons_self

/-- While no connector is held, every one that was built was stopped. -/
theorem stopped_of_built (h : Lives s first n none deeds) (hbuilt : (m, Deed.built) ∈ deeds) :
    (m, Deed.stopped) ∈ deeds := by
  obtain ⟨hfirst, hnext⟩ := h.built_iff.mp hbuilt
  obtain ⟨succeeded, hlife⟩ := h.exists_life hfirst hnext
  rw [← mem_deedsOf, hlife]
  exact List.mem_append_right _ (List.mem_singleton_self _)

/-- A connector that was stopped is not stopped again. -/
theorem stopped_once {before after : List (Nat × Deed)}
    (h : Lives s first n held (before ++ after)) (hstopped : (m, Deed.stopped) ∈ before) :
    (m, Deed.stopped) ∉ after := by
  intro hagain
  obtain ⟨hfirst, hnext⟩ := h.range_of_mem (List.mem_append_left _ hstopped)
  obtain ⟨succeeded, hlife⟩ := h.exists_life hfirst hnext
  have hcount : (deedsOf m (before ++ after)).count .stopped ≤ 1 := by
    rw [hlife]
    cases succeeded <;> cases held.any _ <;> decide
  have hearlier := List.count_pos_iff.mpr (mem_deedsOf.mpr hstopped)
  have hlater := List.count_pos_iff.mpr (mem_deedsOf.mpr hagain)
  rw [deedsOf_append, List.count_append] at hcount
  omega

/-- A connector is built only after every earlier one was stopped. -/
theorem stopped_before (h : Lives s first n held deeds) {before after : List (Nat × Deed)} {k : Nat}
    (split : deeds = before ++ (k, .built) :: after) (hbuilt : (m, Deed.built) ∈ before) :
    (m, Deed.stopped) ∈ before := by
  induction h generalizing after with
  | nobody => simp at split
  | @born n deeds lives succeeded ih =>
    rcases place_in_append split with ⟨rest, hrest⟩ | ⟨rest, rfl, hrest⟩
    · exact ih hrest
    · cases rest with
      | nil =>
        rw [List.append_nil] at hbuilt ⊢
        exact lives.stopped_of_built hbuilt
      | cons deed rest =>
        -- Of the deeds that bring a connector up, only the first builds it.
        have hmem : (k, Deed.built) ∈ ((Deed.introduction succeeded).map (n, ·)).tail := by
          rw [hrest]
          exact List.mem_append_right _ List.mem_cons_self
        cases succeeded <;> simp [Deed.introduction] at hmem
  | @gone n connector deeds lives ih =>
    rcases place_in_append split with ⟨rest, hrest⟩ | ⟨rest, rfl, hrest⟩
    · exact ih hrest
    · have hmem : (k, Deed.built) ∈ [(connector.number, Deed.stopped)] := by
        rw [hrest]
        exact List.mem_append_right _ List.mem_cons_self
      simp at hmem

end Lives

section Journals

variable (env : Surroundings F) (s : Service F)

@[simp] theorem Surroundings.deeds_nil : env.deeds [] = [] := rfl

@[simp] theorem Surroundings.deeds_append (j j' : Journal F) :
    env.deeds (j ++ j') = env.deeds j ++ env.deeds j' := List.filterMap_append

@[simp] theorem Surroundings.deeds_notice (notice : Notice) (j : Journal F) :
    env.deeds (.notice notice :: j) = env.deeds j := rfl

@[simp] theorem Surroundings.deeds_changes (before after : Phase) :
    env.deeds (s.changes before after) = [] := by
  unfold Service.changes
  by_cases h : before.allows after = true
  · simp [h]
  · simp [h]

@[simp] theorem Surroundings.deeds_leave (st : State F) : env.deeds (s.leave st) = [] := by
  unfold Service.leave
  by_cases h : st.phase.isRunning = true
  · simp [h]
  · simp [h]

@[simp] theorem Surroundings.deeds_farewell (connector : Instance F)
    (answer : Outcome CauseChain Unit) :
    env.deeds (s.farewell connector answer) = [(connector.number, .stopped)] := by
  cases answer <;> rfl

@[simp] theorem Surroundings.deeds_buildUp (n : Nat) (binding : String) (address : SocketAddress) :
    env.deeds (s.buildUp n binding address) =
      [(n, .built), (n, .started (env.start (s.connector n) (s.bag address) s.manager).isOk)] := rfl

@[simp] theorem Surroundings.deeds_transport (n : Nat) :
    env.deeds [.call (.transport (s.connector n))] = [(n, .shown)] := rfl

end Journals

section Steps

variable {s : Service F} {env : Surroundings F} {first n : Nat} {st st' : State F}
  {sit sit' : Situation F} {deeds : List (Nat × Deed)} {j : Journal F}

/-- A teardown ends the life of the connector that was held. -/
theorem Takedown.lives {o : Outcome Failure Unit} (h : Takedown s env st o st' j)
    (lives : Lives s first n st.connector deeds) :
    Lives s first n st'.connector (deeds ++ env.deeds j) ∧ st'.connector = none := by
  cases h with
  | nothing none_held =>
    rw [none_held] at lives
    simpa using lives
  | stopped held answered =>
    rw [held] at lives
    simpa using lives.gone
  | cut held unwound =>
    rw [held] at lives
    simpa using lives.gone

/-- Bringing a connector up begins its life, if it comes to be built at all. -/
theorem Ascent.lives {o : Outcome Failure Handle} (h : Ascent s env n o sit j)
    (lives : Lives s first n none deeds) :
    Lives s first sit.next sit.state.connector (deeds ++ env.deeds j) := by
  cases h with
  | unbound unnamed => simpa using lives
  | lookup named halt | build located halt =>
    rw [show env.deeds _ = [] from rfl, List.append_nil]
    exact lives
  | start located built halt =>
    simpa [Deed.introduction, halt.isOk_eq_false] using lives.born false
  | transport located built started halt =>
    simpa [Deed.introduction, started, Outcome.isOk] using lives.born true
  | up located built started shown =>
    simpa [Deed.introduction, started, Outcome.isOk] using lives.born true

/-- A new attempt begins a life, and ends it if it fails. -/
theorem Attempt.lives {o : Outcome Failure Handle} (h : Attempt s env n o sit j)
    (lives : Lives s first n none deeds) :
    Lives s first sit.next sit.state.connector (deeds ++ env.deeds j) := by
  cases h with
  | up ascent => simpa using ascent.lives lives
  | cut ascent => exact ascent.lives lives
  | failed ascent down =>
    obtain ⟨hlives, hnone⟩ := down.lives (ascent.lives lives)
    rw [hnone] at hlives
    simpa using hlives
  | cutDown ascent down => simpa using (down.lives (ascent.lives lives)).1

/-- A repair ends the life of a connector that was left. -/
theorem Recovery.lives {o : Outcome Failure Unit} (h : Recovery s env st o st' j)
    (lives : Lives s first n st.connector deeds) :
    Lives s first n st'.connector (deeds ++ env.deeds j) := by
  cases h with
  | needless settled => simpa using lives
  | mended interrupted down =>
    obtain ⟨hlives, hnone⟩ := down.lives lives
    rw [hnone] at hlives
    exact hlives
  | cut interrupted down => exact (down.lives lives).1

/-- A start adds to the lives of connectors. -/
theorem Launch.lives {o : Outcome Failure Handle} (h : Launch s env sit o sit' j)
    (lives : Lives s first sit.next sit.state.connector deeds) :
    Lives s first sit'.next sit'.state.connector (deeds ++ env.deeds j) := by
  cases h with
  | shown runs => simpa using lives
  | cut idle repair => exact repair.lives lives
  | anew idle repair ready attempt => simpa using attempt.lives (repair.lives lives)

/-- A stop ends the life of the connector that was held. -/
theorem Landing.lives {o : Outcome Failure Unit} (h : Landing s env st o st' j)
    (lives : Lives s first n st.connector deeds) :
    Lives s first n none (deeds ++ env.deeds j) ∧ st'.connector = none := by
  rw [← st.connector_leaving] at lives
  cases h with
  | whole down =>
    obtain ⟨hlives, hnone⟩ := down.lives lives
    rw [hnone] at hlives
    simpa using hlives
  | cut down =>
    obtain ⟨hlives, hnone⟩ := down.lives lives
    rw [hnone] at hlives
    simpa [hnone] using hlives

/-- However a request is served, it adds to the lives of connectors. -/
theorem Served.lives {request : Request F} {o : Outcome Failure Reply}
    (h : Served s sit request o sit' j)
    (lives : Lives s first sit.next sit.state.connector deeds) :
    Lives s first sit'.next sit'.state.connector (deeds ++ request.env.deeds j) := by
  cases h with
  | launched launch => exact launch.lives lives
  | landed landing =>
    obtain ⟨hlives, hnone⟩ := landing.lives lives
    rw [hnone]
    exact hlives
  | looked looks => simpa using lives

end Steps

/-- After every run, what was done to connectors are lives one after the other. -/
theorem run_lives (s : Service F) (first : Nat) (requests : List (Request F)) :
    Lives s first (s.run first requests).situation.next
      (s.run first requests).situation.state.connector (s.run first requests).deeds := by
  refine run_served_induction (motive := fun run =>
    Lives s first run.situation.next run.situation.state.connector run.deeds) .nobody ?_ requests
  intro run request o sit' j _ lives served
  rw [Run.deeds_snoc run]
  exact served.lives lives

/-- Giving a service up ends the life of the connector that was held. -/
theorem drop_lives {s : Service F} {first : Nat} {sit : Situation F} {deeds : List (Nat × Deed)}
    (env : Surroundings F) (lives : Lives s first sit.next sit.state.connector deeds) :
    Lives s first (s.drop env sit).2.1.next none (deeds ++ env.deeds (s.drop env sit).2.2) := by
  rcases s.drop_landing env sit with ⟨none_held, hdrop⟩ | ⟨o, st', j, _, landing, hdrop⟩
  · rw [hdrop]
    simpa [none_held] using lives
  · rw [hdrop]
    exact (landing.lives lives).1

/-- Every connector that is ever built is started once, then shown if the start succeeded, and then
stopped once, and nothing else is done to it; only the one that is held was not stopped yet. A
connector is built only after all earlier ones were stopped, so none is ever replaced. Once the
service is given up, every connector was stopped. -/
theorem connectors_live_once (s : Service F) (first : Nat) (requests : List (Request F)) :
    let run := s.run first requests
    let st := run.situation.state
    (∀ n, (n, Deed.built) ∈ run.deeds →
      ∃ succeeded, deedsOf n run.deeds = Deed.life succeeded (st.holds n)) ∧
    (∀ n, (n, Deed.built) ∉ run.deeds → deedsOf n run.deeds = []) ∧
    (∀ connector, st.connector = some connector →
      connector = s.connector connector.number ∧ (connector.number, Deed.built) ∈ run.deeds) ∧
    (∀ before n after, run.deeds = before ++ (n, Deed.built) :: after →
      ∀ m, (m, Deed.built) ∈ before → (m, Deed.stopped) ∈ before) ∧
    ∀ env : Surroundings F,
      let deeds := run.deeds ++ env.deeds (s.drop env run.situation).2.2
      ∀ n, (n, Deed.built) ∈ deeds → ∃ succeeded, deedsOf n deeds = Deed.life succeeded false := by
  intro run st
  have lives : Lives s first run.situation.next st.connector run.deeds := run_lives s first requests
  refine ⟨?_, ?_, ?_, ?_, ?_⟩
  · intro n hbuilt
    obtain ⟨hfirst, hnext⟩ := lives.built_iff.mp hbuilt
    exact lives.exists_life hfirst hnext
  · intro n hbuilt
    rw [lives.built_iff] at hbuilt
    exact lives.deedsOf_eq_nil (by omega)
  · intro connector held
    rw [held] at lives
    obtain ⟨hconnector, hfirst, hnext⟩ := lives.eq_connector
    exact ⟨hconnector, lives.built_iff.mpr ⟨hfirst, by omega⟩⟩
  · intro before n after split m hbuilt
    exact lives.stopped_before split hbuilt
  · intro env deeds n hbuilt
    have given := drop_lives env lives
    obtain ⟨hfirst, hnext⟩ := given.built_iff.mp hbuilt
    exact given.exists_life hfirst hnext

end ConnectorLifecycle
