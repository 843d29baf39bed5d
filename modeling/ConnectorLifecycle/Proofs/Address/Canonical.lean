import ConnectorLifecycle.Proofs.Address.Form
import ConnectorLifecycle.Proofs.Address.RoundTrip
import ConnectorLifecycle.Proofs.Bindings
import ConnectorLifecycle.Proofs.PhasePath

/-!
# Addresses as they are reported

An address is shown to a client by the handle of a running connector, and to an operator by the
record that the endpoint started. Both show one text for one address, and `Bindings.Takes` says that
every table of bindings takes this text for just that address. A service that runs has reported the
address that its handle shows: the start that brought the connector up did, and nothing but a stop
changes the handle.
-/

namespace ConnectorLifecycle

namespace Bindings

variable {text : String} {a : SocketAddress}

/-- Every table can be given a text under any name, and the name then has the address. -/
def Takes (text : String) (a : SocketAddress) : Prop :=
  ∀ name pairs bindings, ofPairs pairs = .ok bindings →
    ∃ bindings', ofPairs (pairs ++ [(name, text)]) = .ok bindings' ∧ bindings'.resolve name = .ok a

/-- Tables take the texts that denote an address. -/
theorem takes_iff : Takes text a ↔ SocketAddress.ofText? text = some a := by
  constructor
  · intro takes
    obtain ⟨bindings, hpairs, hresolve⟩ := takes "" [] Table.empty rfl
    have last : LastUnder "" text ([] ++ [("", text)]) := ⟨[], [], rfl, List.not_mem_nil⟩
    obtain ⟨b, htext, hb⟩ := resolve_of_lastUnder hpairs last
    rw [hresolve] at hb
    rw [htext, Except.ok.inj hb]
  · intro htext name pairs bindings hpairs
    have hlonger : ofPairs (pairs ++ [(name, text)]) = .ok (bindings.insert name a) := by
      rw [ofPairs, insertPairs_append _ hpairs, insertPairs_cons htext]
      rfl
    refine ⟨_, hlonger, ?_⟩
    rw [resolve, Table.get?_insert, if_pos rfl]

/-- The address of a name is the one that its last text is taken for. -/
theorem exists_takes_of_resolve {pairs : List (String × String)} {bindings : Bindings}
    {name : String} (h : ofPairs pairs = .ok bindings) (resolved : bindings.resolve name = .ok a) :
    ∃ text, LastUnder name text pairs ∧ Takes text a := by
  obtain ⟨text, last, htext⟩ := exists_text_of_resolve h resolved
  exact ⟨text, last, takes_iff.mpr htext⟩

end Bindings

section Reports

variable {F : Type} {s : Service F} {env : Surroundings F} {e : Ending} {sit sit' : Situation F}
  {j : Journal F} {handle : Handle}

/-- It was reported that the endpoint started, with the address that a handle shows. -/
def Reported (s : Service F) (handle : Handle) (journal : Journal F) : Prop :=
  .notice (.endpoint s.logger (.started handle.transport.view.address)) ∈ journal

/-- After a start there is no other handle than before, but for one that the start reported. -/
theorem Launch.reported {o : Outcome Failure Handle} (h : Launch s env sit o sit' j)
    (shape : Shape s e sit.state) (runs : s.runningHandle? sit'.state = some handle) :
    s.runningHandle? sit.state = some handle ∨ Reported s handle j := by
  cases o with
  | ok shown =>
    obtain ⟨_, hshown⟩ := h.of_ok
    obtain rfl : shown = handle := Option.some.inj (hshown.symm.trans runs)
    cases h with
    | shown => exact .inl runs
    | anew idle repair ready attempt =>
      cases attempt with
      | up ascent => exact .inr (by simp [Reported])
  | error f =>
    rw [h.of_error.1] at runs
    cases runs
  | abort m =>
    have midway : sit'.state.phase.isMidway = true := by
      have unwound : (.abort m : Outcome Failure Handle).isAbort = true := rfl
      refine (shape.launch h).isMidway_iff.mpr ?_
      rw [Ending.of, if_pos unwound]
      split <;> exact Ending.noConfusion
    rw [(Service.runningHandle?_eq_some_iff.mp runs).1] at midway
    cases midway

/-- After a stop there is no handle. -/
theorem Landing.runningHandle?_eq_none {o : Outcome Failure Unit} {st st' : State F}
    (h : Landing s env st o st' j) (shape : Shape s e st) : s.runningHandle? st' = none := by
  apply s.runningHandle?_of_ne_running
  intro hp
  obtain ⟨connector, transport, address, hst⟩ := (shape.landing h).of_running hp
  have held := h.connector_eq_none
  rw [hst] at held
  cases held

/-- However a request is served, a handle was there before or was reported. -/
theorem Served.reported {request : Request F} {o : Outcome Failure Reply}
    (h : Served s sit request o sit' j) (shape : Shape s e sit.state)
    (runs : s.runningHandle? sit'.state = some handle) :
    s.runningHandle? sit.state = some handle ∨ Reported s handle j := by
  cases h with
  | launched launch => exact launch.reported shape runs
  | landed landing =>
    rw [landing.runningHandle?_eq_none shape] at runs
    cases runs
  | looked => exact .inl runs

/-- A start that ends with a handle leaves the service with that handle. -/
theorem Served.runningHandle?_of_start {request : Request F}
    (h : Served s sit request (.ok (.handle handle)) sit' j)
    (operation : request.operation = .start) : s.runningHandle? sit'.state = some handle := by
  generalize ho : Outcome.ok (Reply.handle handle) = o at h
  cases h with
  | @launched env o sit' j launch =>
    cases o with
    | ok shown =>
      cases ho
      exact launch.of_ok.2
    | error f => cases ho
    | abort m => cases ho
  | landed => cases operation
  | looked looks =>
    rw [operation] at looks
    cases looks

/-- After every run, the handles that starts gave out and the one that there is now were
reported. -/
theorem run_reported (s : Service F) (first : Nat) (requests : List (Request F)) :
    let run := s.run first requests
    (∀ turn ∈ run.turns, turn.request.operation = .start →
      ∀ handle, turn.outcome = .ok (.handle handle) → Reported s handle run.journal) ∧
    ∀ handle, s.runningHandle? run.situation.state = some handle →
      Reported s handle run.journal := by
  refine run_served_induction (motive := fun run =>
    (∀ turn ∈ run.turns, turn.request.operation = .start →
      ∀ handle, turn.outcome = .ok (.handle handle) → Reported s handle run.journal) ∧
    ∀ handle, s.runningHandle? run.situation.state = some handle →
      Reported s handle run.journal) ?_ ?_ requests
  · exact ⟨fun turn hturn => absurd hturn List.not_mem_nil, fun handle runs => nomatch runs⟩
  intro run request o sit' j shape ⟨earlier, present⟩ served
  -- What is reported of the handle that is there now settles the start that was just served.
  have now : ∀ handle, s.runningHandle? sit'.state = some handle →
      Reported s handle (run.journal ++ j) := by
    intro handle runs
    rcases served.reported shape runs with before | reported
    · exact List.mem_append_left _ (present handle before)
    · exact List.mem_append_right _ reported
  rw [run.journal_snoc]
  refine ⟨?_, now⟩
  intro turn hturn operation handle hhandle
  rcases List.mem_append.mp hturn with hturn | hturn
  · exact List.mem_append_left _ (earlier turn hturn operation handle hhandle)
  · obtain rfl := List.mem_singleton.mp hturn
    obtain rfl : o = .ok (.handle handle) := hhandle
    exact now handle (served.runningHandle?_of_start operation)

end Reports

/-- The text of an address is taken by every table for that address, so two addresses that tables
have are reported alike exactly if they are the same. It is the one form that the rule for writing
addresses allows. Of every handle that a start of a service gave out, and of the handle that a
client gets after the run, the record was written that the endpoint started, and it ends with the
text of the address that the handle shows. -/
theorem address_texts_are_canonical {F : Type} :
    (∀ a, Bindings.Takes a.text a) ∧
    (∀ text text' a b, Bindings.Takes text a → Bindings.Takes text' b →
      (a.text = b.text ↔ a = b)) ∧
    (∀ pairs bindings name a, Bindings.ofPairs pairs = .ok bindings →
      bindings.resolve name = .ok a → ∃ text, LastUnder name text pairs ∧ Bindings.Takes text a) ∧
    (∀ (a : SocketAddress) cs, a.Written cs ↔ cs = a.text.toList) ∧
    (∀ logger a, (Notice.endpoint logger (.started (some a))).record.message =
      "[" ++ logger.service ++ "] " ++ ("endpoint started on " ++ a.text)) ∧
    (∀ (s : Service F) (first : Nat) (requests : List (Request F)),
      let run := s.run first requests
      (∀ turn ∈ run.turns, turn.request.operation = .start → ∀ handle a,
        turn.outcome = .ok (.handle handle) → handle.transport.view.address = some a →
          .notice (.endpoint s.logger (.started (some a))) ∈ run.journal) ∧
      ∀ handle a, s.handle run.situation.state = .ok handle →
        handle.transport.view.address = some a →
          .notice (.endpoint s.logger (.started (some a))) ∈ run.journal) := by
  refine ⟨fun a => Bindings.takes_iff.mpr a.ofText?_text, fun _ _ a b _ _ =>
    SocketAddress.text_inj, fun _ _ _ a => Bindings.exists_takes_of_resolve, ?_, ?_, ?_⟩
  · intro a cs
    rw [SocketAddress.written_iff, SocketAddress.text, String.toList_ofList]
  · intro logger a
    rfl
  · intro s first requests
    obtain ⟨given, present⟩ := run_reported s first requests
    constructor
    · intro turn hturn operation handle a hhandle shown
      have reported := given turn hturn operation handle hhandle
      rwa [Reported, shown] at reported
    · intro handle a hhandle shown
      have runs : s.runningHandle? (s.run first requests).situation.state = some handle := by
        unfold Service.handle at hhandle
        split at hhandle
        · next heq => rw [heq, Except.ok.inj hhandle]
        · cases hhandle
      have reported := present handle runs
      rwa [Reported, shown] at reported

/-- Groups, a scope that is none and a port may be read with needless zeros, which are not shown. -/
example : (SocketAddress.ofText? "[0:0::A:0:0:1%00]:080").map SocketAddress.text =
    some "[::a:0:0:1]:80" := by decide

end ConnectorLifecycle
