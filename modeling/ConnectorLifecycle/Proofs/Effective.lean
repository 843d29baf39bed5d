import Mathlib.Data.List.Nodup
import ConnectorLifecycle.Address.Reading
import ConnectorLifecycle.Proofs.Address.RoundTrip
import ConnectorLifecycle.Proofs.Entries

/-!
# What a bag says

A connector learns its settings from the texts in its bag, which it reads as numbers, truth values
and addresses. `Spelling` is a way of writing values together with the reader that undoes it, and
`PropertyBag.Says` lists, key by key, what a bag says of the settings that are in force. What was
derived for a connector says just these and nothing else, so a bag can be read back, and two bags
are the same exactly if the settings in force are.
-/

namespace ConnectorLifecycle

section Readers

/-- A number below a bound, in decimal digits that may follow a plus sign. -/
def unsigned? (bound : Nat) (text : String) : Option Nat :=
  match text.toList with
  | '+' :: digits => decimalBelow? bound digits
  | digits => decimalBelow? bound digits

/-- A number of 64 bits with its sign, of which a plus may be left out. -/
def signed? (text : String) : Option Int64 :=
  match text.toList with
  | '-' :: digits =>
    (decimalBelow? (Int64.size / 2 + 1) digits).map fun n => Int64.ofInt (-Int.ofNat n)
  | '+' :: digits => (decimalBelow? (Int64.size / 2) digits).map fun n => Int64.ofInt (Int.ofNat n)
  | digits => (decimalBelow? (Int64.size / 2) digits).map fun n => Int64.ofInt (Int.ofNat n)

/-- A truth value. -/
def flag? : String → Option Bool
  | "true" => some true
  | "false" => some false
  | _ => none

/-- A sign does not stand in front of a written number. -/
theorem decimal_ne_cons_of_sign {n : Nat} {c : Char} (hc : digitValue? c = none)
    (digits : List Char) : decimal n ≠ c :: digits := by
  intro h
  have hsign : c ∈ decimal n := by
    rw [h]
    exact List.mem_cons_self
  exact not_mem_toDigits (by omega) (by omega) hc hsign

/-- A written number is read within every bound that it keeps. -/
theorem unsigned?_decimalText {bound n : Nat} (h : n < bound) :
    unsigned? bound (decimalText n) = some n := by
  rw [unsigned?, decimalText, String.toList_ofList]
  split
  · next digits hplus => exact absurd hplus (decimal_ne_cons_of_sign rfl digits)
  · exact decimalBelow?_decimal h

/-- A written number of 64 bits with its sign is read. -/
theorem signed?_signedText (n : Int64) : signed? (signedText n.toInt) = some n := by
  have hlow : -2 ^ 63 ≤ n.toInt := n.le_toInt
  have hhigh : n.toInt < 2 ^ 63 := n.toInt_lt
  have hhalf : Int64.size / 2 = 2 ^ 63 := rfl
  cases hn : n.toInt with
  | ofNat k =>
    have hk : k < Int64.size / 2 := by
      rw [hn, Int.ofNat_eq_natCast] at hhigh
      omega
    rw [signed?, signedText, decimalText, String.toList_ofList]
    split
    · next digits hminus => exact absurd hminus (decimal_ne_cons_of_sign rfl digits)
    · next digits hplus => exact absurd hplus (decimal_ne_cons_of_sign rfl digits)
    · rw [decimalBelow?_decimal hk, Option.map_some, ← hn, Int64.ofInt_toInt]
  | negSucc k =>
    have hk : k + 1 < Int64.size / 2 + 1 := by omega
    have hvalue : -Int.ofNat (k + 1) = n.toInt := by
      rw [hn]
      rfl
    rw [signed?, signedText, String.toList_ofList]
    change (decimalBelow? (Int64.size / 2 + 1) (decimal (k + 1))).map _ = _
    rw [decimalBelow?_decimal hk, Option.map_some, hvalue, Int64.ofInt_toInt]

/-- The least number has no counterpart with the other sign. -/
example : signed? "-9223372036854775808" = some Int64.minValue ∧
    signed? "9223372036854775808" = none := by decide

end Readers

/-- A way to write values as texts, and the reader that undoes it. -/
structure Spelling (α : Type) where
  /-- How a value is written. -/
  write : α → String
  /-- How a text is read. -/
  read : String → Option α
  /-- What was written is read. -/
  read_write : ∀ a, read (write a) = some a

namespace Spelling

variable {α : Type}

/-- Different values are written differently. -/
theorem write_inj (spelling : Spelling α) {a b : α} :
    spelling.write a = spelling.write b ↔ a = b := by
  constructor
  · intro h
    have hread := spelling.read_write a
    rw [h, spelling.read_write] at hread
    exact (Option.some.inj hread).symm
  · exact congrArg spelling.write

/-- Numbers below a bound are written in decimal digits. -/
def number (bound : Nat) (toNat : α → Nat) (ofNat : Nat → α) (bounded : ∀ a, toNat a < bound)
    (ofNat_toNat : ∀ a, ofNat (toNat a) = a) : Spelling α where
  write a := decimalText (toNat a)
  read text := (unsigned? bound text).map ofNat
  read_write a := by rw [unsigned?_decimalText (bounded a), Option.map_some, ofNat_toNat]

/-- Numbers of 16 bits. -/
def word16 : Spelling UInt16 :=
  number UInt16.size UInt16.toNat UInt16.ofNat UInt16.toNat_lt fun _ => UInt16.ofNat_toNat

/-- Numbers of 32 bits. -/
def word32 : Spelling UInt32 :=
  number UInt32.size UInt32.toNat UInt32.ofNat UInt32.toNat_lt fun _ => UInt32.ofNat_toNat

/-- Numbers of 64 bits. -/
def word64 : Spelling UInt64 :=
  number UInt64.size UInt64.toNat UInt64.ofNat UInt64.toNat_lt fun _ => UInt64.ofNat_toNat

/-- Numbers of 64 bits with their signs. -/
def int64 : Spelling Int64 := ⟨fun n => signedText n.toInt, signed?, signed?_signedText⟩

/-- Truth values. -/
def flag : Spelling Bool := ⟨flagText, flag?, fun b => by cases b <;> rfl⟩

/-- Addresses without port. -/
def host : Spelling IpAddress := ⟨IpAddress.text, IpAddress.ofText?, IpAddress.ofText?_text⟩

/-- Texts as they are. -/
def verbatim : Spelling String := ⟨id, some, fun _ => rfl⟩

end Spelling

/-- What is in force of a state transfer block. -/
@[ext]
structure EffectiveTransfer where
  /-- How long to wait for locks. -/
  lockTimeout : Option UInt64
  /-- How long to wait for replication. -/
  replicationTimeout : Option UInt64
  /-- How long to wait for topology updates. -/
  updateTimeout : Option UInt64
  /-- The host under which clients reach the connector. -/
  externalHost : Option String
  /-- The port under which clients reach the connector. -/
  externalPort : Option UInt16
  /-- Whether state is transferred. -/
  transfersState : Bool
  deriving DecidableEq

/-- What is in force of a connector's settings at an address. -/
@[ext]
structure EffectiveSettings where
  /-- Where to listen. -/
  listener : Option (IpAddress × UInt16)
  /-- The number of worker threads. -/
  workers : UInt32
  /-- How long a connection may be idle. -/
  idleTimeout : Option Int64
  /-- Whether small packets are sent at once. -/
  tcpNodelay : Option Bool
  /-- The size of the send buffer. -/
  sendBufferSize : Option UInt32
  /-- The size of the receive buffer. -/
  receiveBufferSize : Option UInt32
  /-- The state transfer block. -/
  transfer : Option EffectiveTransfer
  deriving DecidableEq

/-- Retrieval is not lazy by default, and then state is transferred. -/
def StateTransfer.effective (block : StateTransfer) : EffectiveTransfer where
  lockTimeout := block.lockTimeout
  replicationTimeout := block.replicationTimeout
  updateTimeout := block.updateTimeout
  externalHost := block.externalHost
  externalPort := block.externalPort
  transfersState := !block.lazyRetrieval.getD false

/-- There are 160 worker threads by default; an address has a host and a port. -/
def Settings.effective (s : Settings) (binding : Option SocketAddress) : EffectiveSettings where
  listener := binding.map fun a => (a.ip, a.port)
  workers := s.workerThreads.getD 160
  idleTimeout := s.idleTimeout
  tcpNodelay := s.tcpNodelay
  sendBufferSize := s.sendBufferSize
  receiveBufferSize := s.receiveBufferSize
  transfer := s.stateTransfer.map StateTransfer.effective

namespace PropertyBag

/-- The keys of what follows from the address and the socket settings. -/
def connectorKeys : List String :=
  [hostKey, portKey, workerThreadsKey, idleTimeoutKey, tcpNoDelayKey, sendBufferKey,
    receiveBufferKey]

/-- The keys of what follows from a state transfer block. -/
def transferKeys : List String :=
  [lockTimeoutKey, replicationTimeoutKey, updateTimeoutKey, proxyHostKey, proxyPortKey,
    stateTransferKey]

/-- No two of the keys are the same. -/
theorem nodup_keys : (connectorKeys ++ transferKeys).Nodup := by decide

/-- Under a key a bag has the text of a value, which is read back as this value, or it has nothing
if there is no value. -/
structure Tells {α : Type} (bag : PropertyBag) (key : String) (spelling : Spelling α)
    (value : Option α) : Prop where
  /-- The text is that of the value. -/
  written : bag.get? key = value.map spelling.write
  /-- The text is read back as the value. -/
  read_back : (bag.get? key).map spelling.read = value.map some

namespace Tells

variable {α : Type} {bag : PropertyBag} {key : String} {spelling : Spelling α}
  {value value' : Option α}

/-- What is written is read back. -/
theorem of_written (written : bag.get? key = value.map spelling.write) :
    bag.Tells key spelling value := by
  refine ⟨written, ?_⟩
  rw [written, Option.map_map]
  exact congrArg (Option.map · value) (funext spelling.read_write)

/-- A bag tells one value. -/
theorem unique (h : bag.Tells key spelling value) (h' : bag.Tells key spelling value') :
    value = value' := by
  have hread : value.map some = value'.map some := h.read_back.symm.trans h'.read_back
  exact Option.map_injective (fun a b => Option.some.inj) hread

end Tells

/-- What a bag says of the settings in force, key by key. -/
structure Says (bag : PropertyBag) (e : EffectiveSettings) : Prop where
  /-- The host to listen on. -/
  host : bag.Tells hostKey .host (e.listener.map Prod.fst)
  /-- The port to listen on. -/
  port : bag.Tells portKey .word16 (e.listener.map Prod.snd)
  /-- The number of worker threads. -/
  workers : bag.Tells workerThreadsKey .word32 (some e.workers)
  /-- How long a connection may be idle. -/
  idleTimeout : bag.Tells idleTimeoutKey .int64 e.idleTimeout
  /-- Whether small packets are sent at once. -/
  tcpNodelay : bag.Tells tcpNoDelayKey .flag e.tcpNodelay
  /-- The size of the send buffer. -/
  sendBufferSize : bag.Tells sendBufferKey .word32 e.sendBufferSize
  /-- The size of the receive buffer. -/
  receiveBufferSize : bag.Tells receiveBufferKey .word32 e.receiveBufferSize
  /-- How long to wait for locks. -/
  lockTimeout : bag.Tells lockTimeoutKey .word64 (e.transfer.bind (·.lockTimeout))
  /-- How long to wait for replication. -/
  replicationTimeout :
    bag.Tells replicationTimeoutKey .word64 (e.transfer.bind (·.replicationTimeout))
  /-- How long to wait for topology updates. -/
  updateTimeout : bag.Tells updateTimeoutKey .word64 (e.transfer.bind (·.updateTimeout))
  /-- The host that clients are told. -/
  externalHost : bag.Tells proxyHostKey .verbatim (e.transfer.bind (·.externalHost))
  /-- The port that clients are told. -/
  externalPort : bag.Tells proxyPortKey .word16 (e.transfer.bind (·.externalPort))
  /-- Whether state is transferred, if there is a block. -/
  transfersState : bag.Tells stateTransferKey .flag (e.transfer.map (·.transfersState))
  /-- The bag says nothing else. -/
  nothing_else : ∀ key, bag.contains key = true → key ∈ connectorKeys ++ transferKeys

/-- A bag says one thing. -/
theorem Says.unique {bag : PropertyBag} {e e' : EffectiveSettings} (h : bag.Says e)
    (h' : bag.Says e') : e = e' := by
  have hlistener : e.listener = e'.listener := by
    have hhost := h.host.unique h'.host
    have hport := h.port.unique h'.port
    cases he : e.listener with
    | none =>
      rw [he] at hhost
      exact (Option.map_eq_none_iff.mp hhost.symm).symm
    | some place =>
      rw [he] at hhost hport
      obtain ⟨place', he', hsame⟩ := Option.map_eq_some_iff.mp hhost.symm
      rw [he'] at hport ⊢
      rw [Prod.ext hsame.symm (Option.some.inj hport)]
  have htransfer : e.transfer = e'.transfer := by
    have hlock := h.lockTimeout.unique h'.lockTimeout
    have hreplication := h.replicationTimeout.unique h'.replicationTimeout
    have hupdate := h.updateTimeout.unique h'.updateTimeout
    have hexternal := h.externalHost.unique h'.externalHost
    have hexternalPort := h.externalPort.unique h'.externalPort
    have hflag := h.transfersState.unique h'.transfersState
    cases he : e.transfer with
    | none =>
      rw [he] at hflag
      exact (Option.map_eq_none_iff.mp hflag.symm).symm
    | some block =>
      rw [he] at hflag
      obtain ⟨block', he', hsame⟩ := Option.map_eq_some_iff.mp hflag.symm
      rw [he, he'] at hlock hreplication hupdate hexternal hexternalPort
      rw [he', EffectiveTransfer.ext hlock hreplication hupdate hexternal hexternalPort hsame.symm]
  exact EffectiveSettings.ext hlistener (Option.some.inj (h.workers.unique h'.workers))
    (h.idleTimeout.unique h'.idleTimeout) (h.tcpNodelay.unique h'.tcpNodelay)
    (h.sendBufferSize.unique h'.sendBufferSize) (h.receiveBufferSize.unique h'.receiveBufferSize)
    htransfer

section OfPresent

variable {entries : List (String × Option String)} {key : String}

/-- Optional values that are written one list after the other make the merge of their bags. -/
theorem merge_ofPresent (xs ys : List (String × Option String)) :
    (ofPresent xs).merge (ofPresent ys) = ofPresent (xs ++ ys) := by
  rw [ofPresent, ofPresent, Table.merge_ofList, ofPresent, List.filterMap_append]

/-- A bag of optional values has only keys that are listed. -/
theorem mem_of_contains_ofPresent (h : (ofPresent entries).contains key = true) :
    key ∈ entries.map Prod.fst := by
  obtain ⟨e, hmem, rfl, _⟩ := (contains_ofPresent entries key).mp h
  exact List.mem_map_of_mem (f := Prod.fst) hmem

/-- The keys of the values that are present come in the order of all keys. -/
theorem keys_present_sublist (entries : List (String × Option String)) :
    ((entries.filterMap fun (key, value) => value.map fun v => (key, v)).map Prod.fst).Sublist
      (entries.map Prod.fst) := by
  induction entries with
  | nil => exact .slnil
  | cons e rest ih =>
    obtain ⟨key, value⟩ := e
    cases value with
    | none => exact ih.cons key
    | some text => exact ih.cons_cons key

/-- If no key comes again, a bag of optional values has under each key the value of it. -/
theorem get?_ofPresent {value : Option String} (distinct : (entries.map Prod.fst).Nodup)
    (hmem : (key, value) ∈ entries) : (ofPresent entries).get? key = value := by
  cases value with
  | none =>
    refine Option.not_isSome_iff_eq_none.mp fun held => ?_
    obtain ⟨⟨_, other⟩, hother, rfl, present⟩ := (contains_ofPresent entries key).mp held
    cases List.inj_on_of_nodup_map distinct hother hmem rfl
    cases present
  | some text =>
    have distinct' := distinct.sublist (keys_present_sublist entries)
    refine Table.get?_ofList_eq_some_iff.mpr ((lastUnder_iff_mem distinct').mpr ?_)
    exact List.mem_filterMap.mpr ⟨(key, some text), hmem, rfl⟩

end OfPresent

end PropertyBag

open PropertyBag

namespace EffectiveSettings

/-- What follows from the address and the socket settings, as it is written under its keys. -/
def connectorEntries (e : EffectiveSettings) : List (String × Option String) :=
  [(hostKey, (e.listener.map Prod.fst).map Spelling.host.write),
    (portKey, (e.listener.map Prod.snd).map Spelling.word16.write),
    (workerThreadsKey, (some e.workers).map Spelling.word32.write),
    (idleTimeoutKey, e.idleTimeout.map Spelling.int64.write),
    (tcpNoDelayKey, e.tcpNodelay.map Spelling.flag.write),
    (sendBufferKey, e.sendBufferSize.map Spelling.word32.write),
    (receiveBufferKey, e.receiveBufferSize.map Spelling.word32.write)]

/-- What follows from the state transfer block, as it is written under its keys. -/
def transferEntries (e : EffectiveSettings) : List (String × Option String) :=
  [(lockTimeoutKey, (e.transfer.bind (·.lockTimeout)).map Spelling.word64.write),
    (replicationTimeoutKey, (e.transfer.bind (·.replicationTimeout)).map Spelling.word64.write),
    (updateTimeoutKey, (e.transfer.bind (·.updateTimeout)).map Spelling.word64.write),
    (proxyHostKey, (e.transfer.bind (·.externalHost)).map Spelling.verbatim.write),
    (proxyPortKey, (e.transfer.bind (·.externalPort)).map Spelling.word16.write),
    (stateTransferKey, (e.transfer.map (·.transfersState)).map Spelling.flag.write)]

/-- The bag of all entries says what is in force. -/
theorem entries_say (e : EffectiveSettings) :
    (ofPresent (e.connectorEntries ++ e.transferEntries)).Says e := by
  have told {key : String} {value : Option String}
      (hmem : (key, value) ∈ e.connectorEntries ++ e.transferEntries) :
      (ofPresent (e.connectorEntries ++ e.transferEntries)).get? key = value :=
    get?_ofPresent nodup_keys hmem
  constructor
  case nothing_else => exact fun key h => mem_of_contains_ofPresent h
  all_goals
    refine .of_written (told ?_)
    simp only [connectorEntries, transferEntries, List.cons_append, List.nil_append, List.mem_cons,
      true_or, or_true]

end EffectiveSettings

namespace Settings

variable (s : Settings) (binding : Option SocketAddress)

/-- The group of the socket settings is written from what is in force. -/
theorem connectorProperties_eq :
    s.connectorProperties binding = ofPresent (s.effective binding).connectorEntries := by
  cases binding <;> rfl

/-- The group of the state transfer block is written from what is in force. -/
theorem transferProperties_eq :
    s.transferProperties = ofPresent (s.effective binding).transferEntries := by
  unfold transferProperties EffectiveSettings.transferEntries effective
  cases s.stateTransfer with
  | none => rfl
  | some block =>
    obtain ⟨lockTimeout, replicationTimeout, updateTimeout, externalHost, externalPort,
      lazyRetrieval⟩ := block
    -- A host is written as it is, but that can be seen only of one that is there or is not.
    cases externalHost with
    | none => rfl
    | some name => rfl

/-- What a connector is started with is written from what is in force. -/
theorem properties_eq :
    s.properties binding =
      ofPresent ((s.effective binding).connectorEntries ++
        (s.effective binding).transferEntries) := by
  rw [properties, s.connectorProperties_eq binding, s.transferProperties_eq binding,
    merge_ofPresent]

/-- What a connector is started with says what is in force. -/
theorem properties_say : (s.properties binding).Says (s.effective binding) :=
  s.properties_eq binding ▸ (s.effective binding).entries_say

/-- The two groups have no key in common. -/
theorem disjoint_properties :
    (s.connectorProperties binding).Disjoint s.transferProperties := by
  rintro key ⟨hconnector, htransfer⟩
  rw [s.connectorProperties_eq binding] at hconnector
  rw [s.transferProperties_eq binding] at htransfer
  have apart := (List.nodup_append.mp nodup_keys).2.2
  exact apart key (mem_of_contains_ofPresent hconnector) key (mem_of_contains_ofPresent htransfer)
    rfl

end Settings

/-- The two groups have no key in common, so it does not matter which one is merged into the other,
and the merge is as large as both together. It says, under the thirteen keys, just what is in force:
the parts of the address if there is one, the number of worker threads, every other setting that is
present, and whether state is transferred if there is a block; and each text is read back as what it
was written for. So the bags of two settings, each with or without an address, are the same exactly
if the same is in force. -/
theorem bags_say_what_is_in_force :
    (∀ (s : Settings) (binding : Option SocketAddress),
      let connector := s.connectorProperties binding
      let transfer := s.transferProperties
      let bag := s.properties binding
      connector.Disjoint transfer ∧ bag = connector.merge transfer ∧
        bag = transfer.merge connector ∧ bag.size = connector.size + transfer.size ∧
        bag.Says (s.effective binding)) ∧
    ∀ (s s' : Settings) (binding binding' : Option SocketAddress),
      s.properties binding = s'.properties binding' ↔
        s.effective binding = s'.effective binding' := by
  constructor
  · intro s binding connector transfer bag
    have disjoint : connector.Disjoint transfer := s.disjoint_properties binding
    exact ⟨disjoint, rfl, disjoint.merge_comm, disjoint.size_merge, s.properties_say binding⟩
  · intro s s' binding binding'
    constructor
    · intro same
      have told : (s.properties binding).Says (s'.effective binding') := by
        rw [same]
        exact s'.properties_say binding'
      exact (s.properties_say binding).unique told
    · intro same
      rw [s.properties_eq, s'.properties_eq, same]

end ConnectorLifecycle
