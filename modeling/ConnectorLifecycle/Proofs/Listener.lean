import ConnectorLifecycle.Proofs.Bindings
import ConnectorLifecycle.Proofs.Effective
import ConnectorLifecycle.Proofs.Provision

/-!
# Where connectors listen

A connector learns where to listen from two texts, a host and a port, and puts an address together
from them. Every start of a connector comes of the address that the binding of the settings has, and
what the connector puts together is this address without its scope. So an address in a scope is not
found again, and addresses that differ only in their scopes are one place to a connector.
-/

namespace ConnectorLifecycle

namespace SocketAddress

/-- The scope, which an address of version 4 has not. -/
def scope : SocketAddress → UInt32
  | v4 _ _ => 0
  | v6 _ scope _ => scope

/-- The address outside of any scope. -/
def unscoped (a : SocketAddress) : SocketAddress := ofParts a.ip a.port

/-- Only a scope is lost. -/
theorem unscoped_eq_self_iff {a : SocketAddress} : a.unscoped = a ↔ a.scope = 0 := by
  cases a with
  | v4 ip port => exact iff_of_true rfl rfl
  | v6 ip scope port =>
    change v6 ip 0 port = v6 ip scope port ↔ scope = 0
    rw [v6.injEq]
    exact ⟨fun h => h.2.1.symm, fun h => ⟨rfl, h.symm, rfl⟩⟩

/-- An address is told by its parts, but for its scope. -/
theorem unscoped_inj {a b : SocketAddress} :
    a.unscoped = b.unscoped ↔ a.ip = b.ip ∧ a.port = b.port := by
  cases a <;> cases b <;> simp [unscoped, ofParts, ip, port]

end SocketAddress

/-- The addresses of bindings are those of a table. -/
def Surroundings.ResolvesBy {F : Type} (env : Surroundings F) (bindings : Bindings) : Prop :=
  ∀ name, env.resolve name = .ofExcept (bindings.resolve name)

/-- A binding that is found is one of the table. -/
theorem Surroundings.ResolvesBy.resolve_eq_ok {F : Type} {env : Surroundings F}
    {bindings : Bindings} (h : env.ResolvesBy bindings) {name : String} {a : SocketAddress}
    (found : env.resolve name = .ok a) : bindings.resolve name = .ok a := by
  rw [h name] at found
  cases hresolve : bindings.resolve name with
  | ok b =>
    rw [hresolve] at found
    exact congrArg Except.ok (Outcome.ok.inj found)
  | error f =>
    rw [hresolve] at found
    cases found

/-- A connector puts the address of its bag together again, but for the scope. -/
theorem Settings.addressOf_properties (s : Settings) (a : SocketAddress) :
    Rehearsal.addressOf (s.properties (some a)) = some a.unscoped := by
  have told := s.properties_say (some a)
  have hhost : (s.properties (some a)).get? PropertyBag.hostKey = some a.ip.text :=
    told.host.written
  have hport : (s.properties (some a)).get? PropertyBag.portKey =
      some (decimalText a.port.toNat) := told.port.written
  have hread : port? (decimalText a.port.toNat).toList = some a.port := by
    rw [decimalText, String.toList_ofList, port?_decimal]
  simp [Rehearsal.addressOf, hhost, hport, hread, IpAddress.ofText?_text, SocketAddress.unscoped]

/-- Two addresses are told alike exactly if they differ at most in their scopes. -/
theorem Settings.told_alike_iff (s s' : Settings) (a b : SocketAddress) :
    ((s.properties (some a)).get? PropertyBag.hostKey =
        (s'.properties (some b)).get? PropertyBag.hostKey ∧
      (s.properties (some a)).get? PropertyBag.portKey =
        (s'.properties (some b)).get? PropertyBag.portKey) ↔ a.unscoped = b.unscoped := by
  have told := s.properties_say (some a)
  have told' := s'.properties_say (some b)
  rw [told.host.written, told'.host.written, told.port.written, told'.port.written,
    SocketAddress.unscoped_inj]
  change some (Spelling.host.write a.ip) = some (Spelling.host.write b.ip) ∧
    some (Spelling.word16.write a.port) = some (Spelling.word16.write b.port) ↔ _
  rw [Option.some.injEq, Option.some.injEq, Spelling.write_inj, Spelling.write_inj]

variable {F : Type}

/-- Every start of a connector in a run comes of the address that was found for the binding. -/
theorem run_located (s : Service F) (first : Nat) (requests : List (Request F)) :
    let run := s.run first requests
    ∀ start ∈ startCallsIn run.journal, ∃ turn ∈ run.turns, ∃ binding address,
      s.Located turn.request.env binding address ∧ start.bag = s.bag address := by
  refine run_served_induction (motive := fun run =>
    ∀ start ∈ startCallsIn run.journal, ∃ turn ∈ run.turns, ∃ binding address,
      s.Located turn.request.env binding address ∧ start.bag = s.bag address) ?_ ?_ requests
  · exact fun start hmem => absurd hmem List.not_mem_nil
  intro run request o sit' j _ earlier served start hmem
  rw [run.journal_snoc, startCallsIn_append, List.mem_append] at hmem
  rcases hmem with hmem | hmem
  · obtain ⟨turn, hturn, located⟩ := earlier start hmem
    exact ⟨turn, List.mem_append_left _ hturn, located⟩
  · refine ⟨⟨request, o, j⟩, List.mem_append_right _ List.mem_cons_self, ?_⟩
    cases served.delivery.1 with
    | nobody none_started =>
      rw [none_started] at hmem
      cases hmem
    | @fresh binding address located _ started =>
      rw [started, List.mem_singleton] at hmem
      rw [hmem]
      exact ⟨binding, address, located, rfl⟩

/-- A start that reaches a connector tells it the address of the settings' binding without its
scope: the connector finds the very address that a text of the table denotes exactly if that address
is in no scope, and it cannot tell addresses from each other that differ in their scopes only. -/
theorem listener_is_told_but_for_its_scope (s : Service F) (first : Nat)
    (requests : List (Request F)) (pairs : List (String × String)) (bindings : Bindings)
    (filled : Bindings.ofPairs pairs = .ok bindings)
    (resolving : ∀ request ∈ requests, request.env.ResolvesBy bindings) :
    (∀ connector bag manager,
      .call (.start connector bag manager) ∈ (s.run first requests).journal →
        ∃ name text address, s.settings.socketBinding = some name ∧
          LastUnder name text pairs ∧ SocketAddress.ofText? text = some address ∧
          bindings.resolve name = .ok address ∧
          Rehearsal.addressOf bag = some address.unscoped ∧
          (Rehearsal.addressOf bag = some address ↔ address.scope = 0)) ∧
    ∀ a b,
      ((s.bag a).get? PropertyBag.hostKey = (s.bag b).get? PropertyBag.hostKey ∧
        (s.bag a).get? PropertyBag.portKey = (s.bag b).get? PropertyBag.portKey) ↔
      a.unscoped = b.unscoped := by
  refine ⟨?_, s.settings.told_alike_iff s.settings⟩
  intro connector bag manager hcall
  have hstart : ⟨connector, bag, manager⟩ ∈ startCallsIn (s.run first requests).journal :=
    List.mem_filterMap.mpr ⟨_, hcall, rfl⟩
  obtain ⟨turn, hturn, name, address, located, hbag⟩ := run_located s first requests _ hstart
  have resolved : bindings.resolve name = .ok address :=
    (resolving _ (Service.request_mem_of_turn hturn)).resolve_eq_ok located.found
  obtain ⟨text, last, htext⟩ := Bindings.exists_text_of_resolve filled resolved
  obtain rfl : bag = s.bag address := hbag
  have told : Rehearsal.addressOf (s.bag address) = some address.unscoped :=
    s.settings.addressOf_properties address
  refine ⟨name, text, address, located.named, last, htext, resolved, told, ?_⟩
  rw [told, Option.some.injEq]
  exact SocketAddress.unscoped_eq_self_iff

/-- A connector at an address in no scope is told this address. -/
theorem listener_is_told_its_address :
    let run := Service.specimen.run 1 [.scripted .start]
    startCallsIn run.journal ≠ [] ∧
    ∀ connector bag manager, .call (.start connector bag manager) ∈ run.journal →
      Rehearsal.addressOf bag = some (.v4 ⟨127, 0, 0, 1⟩ 8080) := by
  intro run
  refine ⟨by decide +kernel, fun connector bag manager hcall => ?_⟩
  let bindings : Bindings := Table.ofList [("http", .v4 ⟨127, 0, 0, 1⟩ 8080)]
  have filled : Bindings.ofPairs [("http", "127.0.0.1:8080")] = .ok bindings := by decide +kernel
  have resolving : ∀ request ∈ [Request.scripted .start], request.env.ResolvesBy bindings := by
    intro request hmem name
    rw [List.mem_singleton.mp hmem]
    rfl
  obtain ⟨name, text, address, named, _, _, resolved, told, _⟩ :=
    (listener_is_told_but_for_its_scope Service.specimen 1 _ _ bindings filled resolving).1
      connector bag manager hcall
  obtain rfl : "http" = name := Option.some.inj named
  obtain rfl : .v4 ⟨127, 0, 0, 1⟩ 8080 = address := Except.ok.inj resolved
  exact told

/-- A connector whose binding has an address in a scope is told another address. So starting does
not tell every connector where its binding is. -/
theorem listener_is_not_told_its_scope :
    ¬ ∀ (s : Service String) (first : Nat) (requests : List (Request String))
      (pairs : List (String × String)) (bindings : Bindings),
      Bindings.ofPairs pairs = .ok bindings →
      (∀ request ∈ requests, request.env.ResolvesBy bindings) →
      ∀ connector bag manager,
        .call (.start connector bag manager) ∈ (s.run first requests).journal →
        ∀ name address, s.settings.socketBinding = some name →
          bindings.resolve name = .ok address → Rehearsal.addressOf bag = some address := by
  intro told
  let address : SocketAddress := .v6 ⟨[0xfe80, 0, 0, 0, 0, 0, 0, 1], rfl⟩ 3 8080
  let bindings : Bindings := Table.ofList [("http", address)]
  let request : Request String := ⟨.start, Rehearsal.surroundings { bindings }⟩
  have filled : Bindings.ofPairs [("http", "[fe80::1%3]:8080")] = .ok bindings := by
    decide +kernel
  have resolving : ∀ r ∈ [request], r.env.ResolvesBy bindings := by
    intro r hmem name
    rw [List.mem_singleton.mp hmem]
    rfl
  have hcall : .call (.start (Service.specimen.connector 1) (Service.specimen.bag address)
      Service.specimen.manager) ∈ (Service.specimen.run 1 [request]).journal := by
    decide +kernel
  have found := told Service.specimen 1 [request] _ bindings filled resolving _ _ _ hcall "http"
    address rfl rfl
  have missed : Rehearsal.addressOf (Service.specimen.bag address) ≠ some address := by
    decide +kernel
  exact missed found

end ConnectorLifecycle
