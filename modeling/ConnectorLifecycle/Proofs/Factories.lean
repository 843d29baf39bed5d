import ConnectorLifecycle.Proofs.Calls
import ConnectorLifecycle.Proofs.Group.Building

/-!
# Which factory a service asks

A service asks nobody for a connector but the factory that it was built with, and only while it is
started: once if the start comes to that, and else not at all. A start comes to it unless the
connector runs already, an earlier one cannot be stopped, or there is no address to listen on. This
holds from wherever a service stands, on its own or in a group, so it holds of every start of every
run.
-/

namespace ConnectorLifecycle

variable {F : Type}

/-- The factory that a call asks for a connector. -/
def Call.factory? : Call F → Option F
  | .create factory _ => some factory
  | .resolve _ | .start _ _ _ | .transport _ | .stop _ => none

/-- The factories that are asked for connectors in a journal, in order. -/
def factoriesIn (journal : Journal F) : List F := (callsIn journal).filterMap Call.factory?

@[simp] theorem factoriesIn_append (j j' : Journal F) :
    factoriesIn (j ++ j') = factoriesIn j ++ factoriesIn j' := by
  rw [factoriesIn, callsIn_append, List.filterMap_append]
  rfl

/-- A factory was asked if the journal tells of it. -/
theorem mem_factoriesIn {f : F} {j : Journal F} :
    f ∈ factoriesIn j ↔ ∃ number, .call (.create f number) ∈ j := by
  rw [factoriesIn, List.mem_filterMap]
  constructor
  · rintro ⟨call, hmem, h⟩
    cases call with
    | create factory number =>
      cases h
      exact ⟨number, mem_callsIn.mp hmem⟩
    | resolve | start | transport | stop => cases h
  · rintro ⟨number, hmem⟩
    exact ⟨_, mem_callsIn.mpr hmem, rfl⟩

/-- In a journal a factory is asked once if a condition holds, and none is if it does not. -/
def AsksOnceIf (condition : Prop) (f : F) (j : Journal F) : Prop :=
  (condition → factoriesIn j = [f]) ∧ (¬ condition → factoriesIn j = [])

namespace AsksOnceIf

variable {condition : Prop} {f : F} {j : Journal F}

/-- The condition holds, and the factory is asked. -/
theorem of_holds (holds : condition) (asked : factoriesIn j = [f]) : AsksOnceIf condition f j :=
  ⟨fun _ => asked, fun fails => absurd holds fails⟩

/-- The condition does not hold, and no factory is asked. -/
theorem of_fails (fails : ¬ condition) (quiet : factoriesIn j = []) : AsksOnceIf condition f j :=
  ⟨fun holds => absurd holds fails, fun _ => quiet⟩

/-- No other factory is asked. -/
theorem eq_of_mem (h : AsksOnceIf condition f j) {g : F} (asked : g ∈ factoriesIn j) : g = f := by
  by_cases holds : condition
  · rw [h.1 holds] at asked
    exact List.mem_singleton.mp asked
  · rw [h.2 holds] at asked
    cases asked

/-- Entries before that ask no factory make no difference. -/
theorem prepend (h : AsksOnceIf condition f j) {before : Journal F}
    (quiet : factoriesIn before = []) : AsksOnceIf condition f (before ++ j) := by
  unfold AsksOnceIf
  rwa [factoriesIn_append, quiet, List.nil_append]

/-- Entries behind that ask no factory make no difference. -/
theorem append (h : AsksOnceIf condition f j) {after : Journal F}
    (quiet : factoriesIn after = []) : AsksOnceIf condition f (j ++ after) := by
  unfold AsksOnceIf
  rwa [factoriesIn_append, quiet, List.append_nil]

end AsksOnceIf

namespace Service

variable (s : Service F) (env : Surroundings F)

/-- There is an address to listen on. -/
def HasAddress : Prop := ∃ binding address, s.Located env binding address

/-- A start comes to asking for a connector. -/
structure ComesToBuild (st : State F) : Prop where
  /-- No connector runs. -/
  idle : st.phase ≠ .running
  /-- A connector that an earlier operation left can be stopped. -/
  stops : ∀ connector, st.connector = some connector → (env.stop connector).isAbort = false
  /-- There is an address to listen on. -/
  located : s.HasAddress env

/-- Every start from a situation asks a factory once if it comes to that, and else none. -/
def Asks (f : F) (sit : Situation F) : Prop :=
  ∀ env, AsksOnceIf (s.ComesToBuild env sit.state) f (s.start env sit).2.2

end Service

section Operations

variable {s : Service F} {env : Surroundings F} {e : Ending} {st st' : State F}
  {sit sit' : Situation F} {n : Nat} {j : Journal F}

/-- Taking a service down asks no factory. -/
theorem Takedown.factoriesIn_eq {o : Outcome Failure Unit} (h : Takedown s env st o st' j) :
    factoriesIn j = [] := by
  rw [factoriesIn, h.callsIn_eq]
  cases st.connector <;> rfl

/-- Stopping a service asks no factory. -/
theorem Landing.factoriesIn_eq {o : Outcome Failure Unit} (h : Landing s env st o st' j) :
    factoriesIn j = [] := by
  rw [factoriesIn, h.callsIn_eq]
  cases st.connector <;> rfl

/-- Repairing what an operation left asks no factory. -/
theorem Recovery.factoriesIn_eq {o : Outcome Failure Unit} (h : Recovery s env st o st' j) :
    factoriesIn j = [] := by
  cases h with
  | needless => rfl
  | mended _ down | cut _ down => exact down.factoriesIn_eq

/-- A repair that is made could stop what was held. -/
theorem Recovery.stops (h : Recovery s env st (.ok ()) st' j) (shape : Shape s e st) :
    ∀ connector, st.connector = some connector → (env.stop connector).isAbort = false := by
  intro connector held
  cases h with
  | needless settled =>
    rw [shape.eq_clear settled] at held
    cases held
  | mended _ down =>
    cases down with
    | nothing none_held =>
      rw [none_held] at held
      cases held
    | stopped held' answered =>
      rw [held] at held'
      cases held'
      exact answered

/-- Bringing a connector up asks the factory if there is an address. -/
theorem Ascent.asks {o : Outcome Failure Handle} (h : Ascent s env n o sit j) :
    AsksOnceIf (s.HasAddress env) s.factory j := by
  cases h with
  | unbound unnamed =>
    refine .of_fails ?_ rfl
    rintro ⟨binding, address, located⟩
    rw [located.named] at unnamed
    cases unnamed
  | lookup named halt =>
    refine .of_fails ?_ rfl
    rintro ⟨binding, address, located⟩
    rw [located.named] at named
    cases named
    rw [located.found] at halt
    cases halt
  | build located | start located | transport located | up located =>
    exact .of_holds ⟨_, _, located⟩ rfl

/-- A new attempt asks the factory if there is an address. -/
theorem Attempt.asks {o : Outcome Failure Handle} (h : Attempt s env n o sit j) :
    AsksOnceIf (s.HasAddress env) s.factory j := by
  cases h with
  | up ascent => exact ascent.asks.append rfl
  | cut ascent => exact ascent.asks
  | failed ascent down => exact ((ascent.asks.append rfl).append down.factoriesIn_eq).append rfl
  | cutDown ascent down => exact (ascent.asks.append rfl).append down.factoriesIn_eq

/-- A start asks the factory if it comes to that. -/
theorem Launch.asks {o : Outcome Failure Handle} (h : Launch s env sit o sit' j)
    (shape : Shape s e sit.state) : AsksOnceIf (s.ComesToBuild env sit.state) s.factory j := by
  cases h with
  | shown runs =>
    exact .of_fails (fun comes => comes.idle (Service.runningHandle?_eq_some_iff.mp runs).1) rfl
  | cut idle repair =>
    refine .of_fails (fun comes => ?_) repair.factoriesIn_eq
    cases repair with
    | cut _ down =>
      cases down with
      | cut held unwound =>
        have answers := comes.stops _ held
        rw [unwound] at answers
        cases answers
  | anew idle repair ready attempt =>
    have not_running : sit.state.phase ≠ .running := by
      intro runs
      obtain ⟨connector, transport, address, hst⟩ := shape.of_running runs
      rw [hst] at idle
      cases idle
    -- The repair was made, so of what an attempt needs only the address is in question.
    have comes : s.ComesToBuild env sit.state ↔ s.HasAddress env :=
      ⟨fun h => h.located, fun located => ⟨not_running, repair.stops shape, located⟩⟩
    rw [comes]
    refine attempt.asks.prepend ?_
    rw [factoriesIn_append, repair.factoriesIn_eq]
    rfl

/-- A service asks no factory but its own. -/
theorem Served.factory_eq {request : Request F} {o : Outcome Failure Reply}
    (h : Served s sit request o sit' j) (shape : Shape s e sit.state) :
    ∀ f ∈ factoriesIn j, f = s.factory := by
  intro f asked
  cases h with
  | launched launch => exact (launch.asks shape).eq_of_mem asked
  | landed landing =>
    rw [landing.factoriesIn_eq] at asked
    cases asked
  | looked => cases asked

/-- Wherever a service stands, a start asks its factory if it comes to that. -/
theorem Shape.asks (shape : Shape s e sit.state) : s.Asks s.factory sit := by
  intro env
  obtain ⟨o, sit', j, launch⟩ := exists_launch s env sit shape.eq_clear
  rw [launch.eval]
  exact launch.asks shape

end Operations

/-- In every run a service asks no factory but its own. -/
theorem run_factory_eq (s : Service F) (first : Nat) (requests : List (Request F)) :
    ∀ f ∈ factoriesIn (s.run first requests).journal, f = s.factory := by
  refine run_served_induction
    (motive := fun run => ∀ f ∈ factoriesIn run.journal, f = s.factory) nofun ?_ requests
  intro run request o sit' j shape kept served f asked
  rw [Run.journal_snoc, factoriesIn_append, List.mem_append] at asked
  exact asked.elim (kept f) (served.factory_eq shape f)

namespace Annals

variable {services : List (Service F)} {group : Group F} {entries : List (Option Nat × Entry F)}

/-- What annals tell is a course of the group. -/
theorem course {built : Group F} (h : Annals built group entries) :
    ∃ cut, Course built cut group (entries.map Prod.snd) := by
  induction h with
  | stay => exact ⟨false, .stay⟩
  | report _ notice ih =>
    obtain ⟨cut, course⟩ := ih
    exact ⟨cut, by simpa using course.report notice⟩
  | @served _ _ _ _ _ _ o _ _ _ served ih =>
    obtain ⟨cut, course⟩ := ih
    exact ⟨cut || o.isAbort, by simpa [Function.comp_def] using course.served served⟩

/-- After everything that annals tell, the services are sound. -/
theorem sound (h : Annals (Group.ofServices services) group entries) :
    ∀ member ∈ group.members, member.Sound true := by
  obtain ⟨cut, course⟩ := h.course
  exact fun member hmem => (course.sound (sound_ofServices services) member hmem).loosen

/-- The service of a place is the one that the group was built with. -/
theorem exists_member (h : Annals (Group.ofServices services) group entries) {place : Nat}
    {s : Service F} (built : services[place]? = some s) :
    ∃ member, group.members[place]? = some member ∧ member.service = s := by
  have same := h.services_eq
  rw [Group.services_ofServices] at same
  rw [← same, List.getElem?_map, Option.map_eq_some_iff] at built
  exact built

/-- A factory is asked only at a place, and is that of the service there. -/
theorem factory_eq (h : Annals (Group.ofServices services) group entries) {place : Option Nat}
    {f : F} {number : Option Nat} (asked : (place, .call (.create f number)) ∈ entries) :
    ∃ k s, place = some k ∧ services[k]? = some s ∧ f = s.factory := by
  induction h with
  | stay => cases asked
  | report _ notice ih =>
    rcases List.mem_append.mp asked with asked | asked
    · exact ih asked
    · cases List.mem_singleton.mp asked
  | @served before after member next entries request o sit j annals served ih =>
    rcases List.mem_append.mp asked with asked | asked
    · exact ih asked
    · obtain ⟨entry, hmem, heq⟩ := List.mem_map.mp asked
      cases heq
      -- Which factory is asked depends on what the service held, so soundness up to here is needed.
      obtain ⟨_, _, shape⟩ := annals.sound member List.mem_append_cons_self
      have own := served.factory_eq shape f (mem_factoriesIn.mpr ⟨number, hmem⟩)
      refine ⟨before.length, member.service, rfl, ?_, own⟩
      have same := annals.services_eq
      rw [Group.services_ofServices] at same
      rw [← same]
      simp

/-- Wherever a group stands, a start of the service of a place asks its factory if it comes to
that. -/
theorem asks (h : Annals (Group.ofServices services) group entries) {place : Nat} {s : Service F}
    (built : services[place]? = some s) :
    ∃ member, group.members[place]? = some member ∧
      member.service.Asks s.factory ⟨member.state, group.next⟩ := by
  obtain ⟨member, hmember, rfl⟩ := h.exists_member built
  obtain ⟨_, _, shape⟩ := h.sound member (List.mem_of_getElem? hmember)
  have asks : member.service.Asks member.service.factory ⟨member.state, group.next⟩ := shape.asks
  exact ⟨member, hmember, asks⟩

end Annals

end ConnectorLifecycle
