import ConnectorLifecycle.Proofs.Fields
import ConnectorLifecycle.Proofs.Typed

/-!
# Settings as a value declares them

A JSON value declares settings as an object, by name, or as a list of all of them in order. What it
declares is read exactly: a field is the value that is given under its name, or absent if nothing is
given there, and a value that is not of the field's type is refused rather than bent to it. `Fits`
says which values are accepted, one level after the other, and `Told` which settings they declare.
-/

namespace ConnectorLifecycle

namespace Value

/-- A record whose keys are texts. -/
def object (fields : List (String × Value)) : Value :=
  .record (fields.map fun (name, v) => (.text name, v))

/-- A value as a decoder of JSON hands it over: the keys of every record are texts, and none is
repeated. A decoder hands `-0` over as a number that is no integer. A zero with a minus sign is
admitted as an integer all the same, so what is said of all these values does not rest on it. -/
inductive IsJson : Value → Prop
  /-- Nothing. -/
  | null : IsJson null
  /-- A truth value. -/
  | flag (b : Bool) : IsJson (flag b)
  /-- An integer without a minus sign. -/
  | natural (n : Nat) : IsJson (natural n)
  /-- An integer with a minus sign. -/
  | negative (n : Nat) : IsJson (negative n)
  /-- Another number. -/
  | real : IsJson real
  /-- A text. -/
  | text (s : String) : IsJson (text s)
  /-- A list of such values. -/
  | list {items : List Value} (each : ∀ v ∈ items, IsJson v) : IsJson (list items)
  /-- An object of such values. -/
  | object {fields : List (String × Value)} (distinct : (fields.map Prod.fst).Nodup)
      (each : ∀ field ∈ fields, IsJson field.2) : IsJson (object fields)

/-- The fields that a value lists: those of an object, or those of a list that has a value for each
name, in order. -/
inductive Lists (names : List String) : Value → List (String × Value) → Prop
  /-- An object lists its fields. -/
  | object (fields : List (String × Value)) : Lists names (object fields) fields
  /-- A complete list has the value of each name at its place. -/
  | list {items : List Value} (complete : items.length = names.length) :
      Lists names (list items) (names.zip items)

/-- A value other than nothing stands under a name. -/
def Given (fields : List (String × Value)) (name : String) (v : Value) : Prop :=
  (name, v) ∈ fields ∧ v ≠ null

/-- A field is what the value given under its name means, and absent if none is given. -/
def FieldIs {α : Type} (Means : Value → α → Prop) (fields : List (String × Value))
    (name : String) : Option α → Prop
  | some a => ∃ v, Given fields name v ∧ Means v a
  | none => ∀ v, ¬ Given fields name v

/-- A value lists fields of which each one that is given has its type. -/
def Fits (types : List (String × (Value → Prop))) (v : Value) : Prop :=
  ∃ fields, v.Lists (types.map Prod.fst) fields ∧
    ∀ type ∈ types, ∀ w, Given fields type.1 w → type.2 w

/-- The same is given under each of some names. -/
def GivenAlike (names : List String) (fields fields' : List (String × Value)) : Prop :=
  ∀ name ∈ names, ∀ v, Given fields name v ↔ Given fields' name v

end Value

open Value

namespace StateTransfer

/-- The types of the settings of a block. -/
def types : List (String × (Value → Prop)) :=
  [("lock-timeout", IntegerWithin 0 18446744073709551615),
    ("replication-timeout", IntegerWithin 0 18446744073709551615),
    ("update-timeout", IntegerWithin 0 18446744073709551615),
    ("external-host", fun v => ∃ s, v = .text s),
    ("external-port", IntegerWithin 0 65535),
    ("lazy-retrieval", fun v => ∃ b, v = .flag b)]

/-- Fields declare a block. -/
structure DeclaredBy (fields : List (String × Value)) (block : StateTransfer) : Prop where
  /-- The wait for locks. -/
  lockTimeout : FieldIs (fun v n => v.integer? = some n.toNat) fields "lock-timeout"
    block.lockTimeout
  /-- The wait for replication. -/
  replicationTimeout : FieldIs (fun v n => v.integer? = some n.toNat) fields "replication-timeout"
    block.replicationTimeout
  /-- The wait for topology updates. -/
  updateTimeout : FieldIs (fun v n => v.integer? = some n.toNat) fields "update-timeout"
    block.updateTimeout
  /-- The host that clients are told. -/
  externalHost : FieldIs (fun v s => v = .text s) fields "external-host" block.externalHost
  /-- The port that clients are told. -/
  externalPort : FieldIs (fun v n => v.integer? = some n.toNat) fields "external-port"
    block.externalPort
  /-- Whether state is fetched only when asked for. -/
  lazyRetrieval : FieldIs (fun v b => v = .flag b) fields "lazy-retrieval" block.lazyRetrieval

/-- A value declares a block. -/
def Told (v : Value) (block : StateTransfer) : Prop :=
  ∃ fields, v.Lists fieldNames fields ∧ block.DeclaredBy fields

end StateTransfer

namespace Settings

/-- The types of the settings. -/
def types : List (String × (Value → Prop)) :=
  [("name", fun v => ∃ s, v = .text s),
    ("cache-container", fun v => ∃ s, v = .text s),
    ("socket-binding", fun v => ∃ s, v = .text s),
    ("worker-threads", IntegerWithin 0 4294967295),
    ("idle-timeout", IntegerWithin (-9223372036854775808) 9223372036854775807),
    ("tcp-nodelay", fun v => ∃ b, v = .flag b),
    ("send-buffer-size", IntegerWithin 0 4294967295),
    ("receive-buffer-size", IntegerWithin 0 4294967295),
    ("topology-state-transfer", Fits StateTransfer.types)]

/-- Fields declare settings. -/
structure DeclaredBy (fields : List (String × Value)) (s : Settings) : Prop where
  /-- The name. -/
  name : FieldIs (fun v t => v = .text t) fields "name" s.name
  /-- The cache container. -/
  cacheContainer : FieldIs (fun v t => v = .text t) fields "cache-container" s.cacheContainer
  /-- The socket binding. -/
  socketBinding : FieldIs (fun v t => v = .text t) fields "socket-binding" s.socketBinding
  /-- The number of worker threads. -/
  workerThreads : FieldIs (fun v n => v.integer? = some n.toNat) fields "worker-threads"
    s.workerThreads
  /-- How long a connection may be idle. -/
  idleTimeout : FieldIs (fun v n => v.integer? = some n.toInt) fields "idle-timeout" s.idleTimeout
  /-- Whether small packets are sent at once. -/
  tcpNodelay : FieldIs (fun v b => v = .flag b) fields "tcp-nodelay" s.tcpNodelay
  /-- The size of the send buffer. -/
  sendBufferSize : FieldIs (fun v n => v.integer? = some n.toNat) fields "send-buffer-size"
    s.sendBufferSize
  /-- The size of the receive buffer. -/
  receiveBufferSize : FieldIs (fun v n => v.integer? = some n.toNat) fields "receive-buffer-size"
    s.receiveBufferSize
  /-- The block. -/
  stateTransfer : FieldIs StateTransfer.Told fields "topology-state-transfer" s.stateTransfer

/-- A value declares settings. -/
def Told (v : Value) (s : Settings) : Prop :=
  ∃ fields, v.Lists fieldNames fields ∧ s.DeclaredBy fields

end Settings

namespace Value

section Shapes

variable {names : List String} {fields : List (String × Value)} {v : Value}

/-- An object has only one list of fields. -/
theorem object_inj {fields fields' : List (String × Value)} :
    object fields = object fields' ↔ fields = fields' := by
  rw [object, object, record.injEq]
  refine List.map_inj_right fun e e' h => ?_
  simpa [Prod.ext_iff] using h

/-- An object is a JSON value if its keys are not repeated and its values are JSON values. -/
theorem isJson_object :
    IsJson (object fields) ↔
      (fields.map Prod.fst).Nodup ∧ ∀ field ∈ fields, IsJson field.2 := by
  constructor
  · intro h
    generalize hv : object fields = v at h
    cases h with
    | object distinct each =>
      obtain rfl := object_inj.mp hv
      exact ⟨distinct, each⟩
    | _ => cases hv
  · exact fun h => .object h.1 h.2

/-- The named values of an object are its fields. -/
theorem block?_object (names : List String) (fields : List (String × Value)) :
    block? names (object fields) = some fields := by
  rw [object, block?]
  induction fields with
  | nil => rfl
  | cons e rest ih =>
    rw [List.map_cons, namedEntries?, ih]
    rfl

/-- The named values of a JSON value are the fields that it lists. -/
theorem IsJson.block?_iff (json : v.IsJson) :
    block? names v = some fields ↔ v.Lists names fields := by
  constructor
  · intro h
    cases json with
    | @object fields' distinct each =>
      rw [block?_object] at h
      cases h
      exact .object _
    | @list items each =>
      rw [block?] at h
      split at h
      · next complete =>
        cases h
        exact .list complete
      · cases h
    | _ => cases h
  · intro h
    cases h with
    | object fields => exact block?_object names fields
    | list complete => rw [block?, if_pos complete]

/-- The fields that a JSON value lists are not repeated, if the names are not. -/
theorem Lists.distinct (h : v.Lists names fields) (json : v.IsJson) (nodup : names.Nodup) :
    (fields.map Prod.fst).Nodup := by
  cases h with
  | object fields => exact (isJson_object.mp json).1
  | list complete => rwa [List.map_fst_zip (Nat.le_of_eq complete.symm)]

/-- The fields that a JSON value lists are JSON values. -/
theorem Lists.json (h : v.Lists names fields) (json : v.IsJson) :
    ∀ field ∈ fields, field.2.IsJson := by
  cases h with
  | object fields => exact (isJson_object.mp json).2
  | list complete =>
    intro field hmem
    cases json with
    | list each => exact each field.2 (List.of_mem_zip hmem).2

end Shapes

section Fields

variable {α : Type} {fields : List (String × Value)} {name : String}

open FieldReader

/-- Where no key is repeated, a value under a name is all that is there. -/
theorem valuesOf_of_mem (distinct : (fields.map Prod.fst).Nodup) {v : Value}
    (mem : (name, v) ∈ fields) : valuesOf name fields = [v] := by
  obtain ⟨before, after, rfl⟩ := List.append_of_mem mem
  rw [List.map_append, List.map_cons, List.nodup_append, List.nodup_cons] at distinct
  obtain ⟨_, ⟨hafter, _⟩, hbefore⟩ := distinct
  have none_before : valuesOf name before = [] := by
    refine List.eq_nil_iff_forall_not_mem.mpr fun w hw => ?_
    have key : name ∈ before.map Prod.fst := List.mem_map_of_mem (mem_valuesOf.mp hw)
    exact hbefore name key name List.mem_cons_self rfl
  have none_after : valuesOf name after = [] := by
    refine List.eq_nil_iff_forall_not_mem.mpr fun w hw => ?_
    have key : name ∈ after.map Prod.fst := List.mem_map_of_mem (mem_valuesOf.mp hw)
    exact hafter key
  rw [valuesOf_append, valuesOf_cons_self, none_before, none_after, List.nil_append]

/-- A value that is given is read. -/
theorem field_of_given (distinct : (fields.map Prod.fst).Nodup) {v : Value}
    (given : Given fields name v) (read : Value → Option α) :
    fieldReader.field read fields name = (read v).map some := by
  have present : v.isPresent = true := by
    cases v with
    | null => exact absurd rfl given.2
    | _ => rfl
  rw [field_eq, valuesOf_of_mem distinct given.1]
  change fieldReader.optional read v = _
  rw [optional_eq, present, if_pos rfl]

/-- A field that is not given is absent. -/
theorem field_of_not_given (distinct : (fields.map Prod.fst).Nodup)
    (absent : ∀ v, ¬ Given fields name v) (read : Value → Option α) :
    fieldReader.field read fields name = some none := by
  rw [field_eq]
  cases hvalues : valuesOf name fields with
  | nil => rfl
  | cons v rest =>
    have mem : (name, v) ∈ fields := by
      rw [← mem_valuesOf, hvalues]
      exact List.mem_cons_self
    have hnull : v = null := Classical.byContradiction fun hne => absent v ⟨mem, hne⟩
    rw [valuesOf_of_mem distinct mem] at hvalues
    cases hvalues
    subst hnull
    rfl

/-- What is given alike is read alike. -/
theorem field_of_alike {fields' : List (String × Value)} (distinct : (fields.map Prod.fst).Nodup)
    (distinct' : (fields'.map Prod.fst).Nodup)
    (alike : ∀ v, Given fields name v ↔ Given fields' name v) (read : Value → Option α) :
    fieldReader.field read fields name = fieldReader.field read fields' name := by
  by_cases given : ∃ v, Given fields name v
  · obtain ⟨v, hv⟩ := given
    rw [field_of_given distinct hv, field_of_given distinct' ((alike v).mp hv)]
  · have absent : ∀ v, ¬ Given fields name v := not_exists.mp given
    have absent' : ∀ v, ¬ Given fields' name v := fun v hv => absent v ((alike v).mpr hv)
    rw [field_of_not_given distinct absent, field_of_not_given distinct' absent']

/-- Of two values that are given under one name there is only one. -/
theorem Given.unique (distinct : (fields.map Prod.fst).Nodup) {v w : Value}
    (hv : Given fields name v) (hw : Given fields name w) : v = w := by
  have hvalues := valuesOf_of_mem distinct hv.1
  rw [valuesOf_of_mem distinct hw.1] at hvalues
  exact (List.cons.inj hvalues).1.symm

/-- A field is read as what the value given under its name means. -/
theorem field_iff_fieldIs (name : String) (distinct : (fields.map Prod.fst).Nodup)
    {read : Value → Option α} {Means : Value → α → Prop}
    (exact_read : ∀ v, Given fields name v → ∀ a, read v = some a ↔ Means v a) (o : Option α) :
    fieldReader.field read fields name = some o ↔ FieldIs Means fields name o := by
  by_cases given : ∃ v, Given fields name v
  · obtain ⟨v, hv⟩ := given
    rw [field_of_given distinct hv]
    cases o with
    | none => simpa [FieldIs] using ⟨v, hv⟩
    | some a =>
      rw [Option.map_eq_some_iff]
      simp only [Option.some.injEq, exists_eq_right, FieldIs]
      rw [exact_read v hv]
      constructor
      · exact fun h => ⟨v, hv, h⟩
      · rintro ⟨w, hw, h⟩
        rwa [hv.unique distinct hw]
  · have absent : ∀ v, ¬ Given fields name v := not_exists.mp given
    rw [field_of_not_given distinct absent]
    cases o with
    | none => simpa [FieldIs] using absent
    | some a => simpa [FieldIs] using fun v hv => absurd hv (absent v)

/-- A field is something exactly if the value that is given has a meaning. -/
theorem exists_fieldIs_iff (name : String) (distinct : (fields.map Prod.fst).Nodup)
    {Means : Value → α → Prop} {IsTyped : Value → Prop}
    (typed : ∀ v, Given fields name v → ((∃ a, Means v a) ↔ IsTyped v)) :
    (∃ o, FieldIs Means fields name o) ↔ ∀ v, Given fields name v → IsTyped v := by
  constructor
  · rintro ⟨o, h⟩ v hv
    cases o with
    | none => exact absurd hv (h v)
    | some a =>
      obtain ⟨w, hw, hmeans⟩ := h
      obtain rfl := hw.unique distinct hv
      exact (typed w hw).mp ⟨a, hmeans⟩
  · intro h
    by_cases given : ∃ v, Given fields name v
    · obtain ⟨v, hv⟩ := given
      obtain ⟨a, ha⟩ := (typed v hv).mpr (h v hv)
      exact ⟨some a, v, hv, ha⟩
    · exact ⟨none, not_exists.mp given⟩

end Fields

end Value

namespace StateTransfer

variable {fields : List (String × Value)} {v : Value} {block : StateTransfer}

/-- Fields with different names are read as the block that they declare. -/
theorem read?_iff_declaredBy (distinct : (fields.map Prod.fst).Nodup) :
    read? fieldReader fields = some block ↔ block.DeclaredBy fields := by
  have word64 (name : String) (o : Option UInt64) :=
    field_iff_fieldIs name distinct (fun v _ n => word64?_iff v n) o
  have host := field_iff_fieldIs "external-host" distinct (fun v _ s => text?_iff v s)
    block.externalHost
  have port := field_iff_fieldIs "external-port" distinct (fun v _ n => word16?_iff v n)
    block.externalPort
  have lazily := field_iff_fieldIs "lazy-retrieval" distinct
    (fun v _ b => flag?_iff v b) block.lazyRetrieval
  rw [read?_eq_some_iff]
  constructor
  · rintro ⟨h₁, h₂, h₃, h₄, h₅, h₆⟩
    exact ⟨(word64 _ _).mp h₁, (word64 _ _).mp h₂, (word64 _ _).mp h₃, host.mp h₄, port.mp h₅,
      lazily.mp h₆⟩
  · rintro ⟨h₁, h₂, h₃, h₄, h₅, h₆⟩
    exact ⟨(word64 _ _).mpr h₁, (word64 _ _).mpr h₂, (word64 _ _).mpr h₃, host.mpr h₄,
      port.mpr h₅, lazily.mpr h₆⟩

/-- A JSON value is read as the block that it declares. -/
theorem ofBlock?_iff_told (json : v.IsJson) :
    ofBlock? fieldReader v = some block ↔ Told v block := by
  have hread : ofBlock? fieldReader v = (block? fieldNames v).bind (read? fieldReader) := rfl
  rw [hread, Option.bind_eq_some_iff, Told]
  refine exists_congr fun fields => ?_
  rw [json.block?_iff]
  exact and_congr_right fun lists => read?_iff_declaredBy (lists.distinct json (by decide))

/-- A JSON value declares a block exactly if it fits the types of one. -/
theorem exists_told_iff (json : v.IsJson) : (∃ block, Told v block) ↔ v.Fits types := by
  unfold Told Fits
  -- With the fields chosen first, each setting can be found on its own.
  rw [exists_comm]
  refine exists_congr fun fields => ?_
  rw [exists_and_left]
  refine and_congr_right fun lists => ?_
  have distinct := lists.distinct json (by decide)
  have word64 (name : String) :=
    exists_fieldIs_iff name distinct fun v _ => width64.exists_iff v
  have host := exists_fieldIs_iff "external-host" distinct
    fun v _ => Iff.refl (∃ s, v = .text s)
  have port := exists_fieldIs_iff "external-port" distinct
    fun v _ => width16.exists_iff v
  have lazily := exists_fieldIs_iff "lazy-retrieval" distinct
    fun v _ => Iff.refl (∃ b, v = .flag b)
  simp only [types, List.forall_mem_cons, List.not_mem_nil, false_imp_iff, implies_true, and_true]
  constructor
  · rintro ⟨block, h⟩
    exact ⟨(word64 _).mp ⟨_, h.lockTimeout⟩, (word64 _).mp ⟨_, h.replicationTimeout⟩,
      (word64 _).mp ⟨_, h.updateTimeout⟩, host.mp ⟨_, h.externalHost⟩,
      port.mp ⟨_, h.externalPort⟩, lazily.mp ⟨_, h.lazyRetrieval⟩⟩
  · rintro ⟨h₁, h₂, h₃, h₄, h₅, h₆⟩
    obtain ⟨lockTimeout, h₁⟩ := (word64 _).mpr h₁
    obtain ⟨replicationTimeout, h₂⟩ := (word64 _).mpr h₂
    obtain ⟨updateTimeout, h₃⟩ := (word64 _).mpr h₃
    obtain ⟨externalHost, h₄⟩ := host.mpr h₄
    obtain ⟨externalPort, h₅⟩ := port.mpr h₅
    obtain ⟨lazyRetrieval, h₆⟩ := lazily.mpr h₆
    exact ⟨⟨lockTimeout, replicationTimeout, updateTimeout, externalHost, externalPort,
      lazyRetrieval⟩, h₁, h₂, h₃, h₄, h₅, h₆⟩

/-- A block that is an object is read from its fields. -/
theorem ofBlock?_object (fields : List (String × Value)) :
    ofBlock? fieldReader (object fields) = read? fieldReader fields := by
  change (block? fieldNames (object fields)).bind _ = _
  rw [block?_object]
  rfl

/-- Blocks in which the same is given are read alike. -/
theorem ofBlock?_of_alike {fields fields' : List (String × Value)}
    (distinct : (fields.map Prod.fst).Nodup) (distinct' : (fields'.map Prod.fst).Nodup)
    (alike : GivenAlike fieldNames fields fields') :
    ofBlock? fieldReader (object fields) = ofBlock? fieldReader (object fields') := by
  rw [ofBlock?_object, ofBlock?_object]
  exact read?_congr fun read name hname => field_of_alike distinct distinct' (alike name hname) read

end StateTransfer

namespace Settings

variable {fields : List (String × Value)} {v : Value} {s : Settings}

/-- Fields with different names are read as the settings that they declare. -/
theorem read?_iff_declaredBy (distinct : (fields.map Prod.fst).Nodup)
    (json : ∀ field ∈ fields, field.2.IsJson) :
    read? fieldReader fields = some s ↔ s.DeclaredBy fields := by
  have text (name : String) (o : Option String) :=
    field_iff_fieldIs name distinct (fun v _ t => text?_iff v t) o
  have word32 (name : String) (o : Option UInt32) :=
    field_iff_fieldIs name distinct (fun v _ n => word32?_iff v n) o
  have idle := field_iff_fieldIs "idle-timeout" distinct (fun v _ n => int64?_iff v n)
    s.idleTimeout
  have nodelay := field_iff_fieldIs "tcp-nodelay" distinct (fun v _ b => flag?_iff v b)
    s.tcpNodelay
  have transfer := field_iff_fieldIs "topology-state-transfer" distinct
    (fun v given _ => StateTransfer.ofBlock?_iff_told (json (_, v) given.1)) s.stateTransfer
  rw [read?_eq_some_iff]
  constructor
  · rintro ⟨h₁, h₂, h₃, h₄, h₅, h₆, h₇, h₈, h₉⟩
    exact ⟨(text _ _).mp h₁, (text _ _).mp h₂, (text _ _).mp h₃, (word32 _ _).mp h₄, idle.mp h₅,
      nodelay.mp h₆, (word32 _ _).mp h₇, (word32 _ _).mp h₈, transfer.mp h₉⟩
  · rintro ⟨h₁, h₂, h₃, h₄, h₅, h₆, h₇, h₈, h₉⟩
    exact ⟨(text _ _).mpr h₁, (text _ _).mpr h₂, (text _ _).mpr h₃, (word32 _ _).mpr h₄,
      idle.mpr h₅, nodelay.mpr h₆, (word32 _ _).mpr h₇, (word32 _ _).mpr h₈, transfer.mpr h₉⟩

/-- A JSON value is read as the settings that it declares. -/
theorem ofValue?_iff_told (json : v.IsJson) : ofValue? v = some s ↔ Told v s := by
  have hread : ofValue? v = (block? fieldNames v).bind (read? fieldReader) := rfl
  rw [hread, Option.bind_eq_some_iff, Told]
  refine exists_congr fun fields => ?_
  rw [json.block?_iff]
  exact and_congr_right fun lists =>
    read?_iff_declaredBy (lists.distinct json (by decide)) (lists.json json)

/-- A JSON value declares settings exactly if it fits their types. -/
theorem exists_told_iff (json : v.IsJson) : (∃ s, Told v s) ↔ v.Fits types := by
  unfold Told Fits
  -- With the fields chosen first, each setting can be found on its own.
  rw [exists_comm]
  refine exists_congr fun fields => ?_
  rw [exists_and_left]
  refine and_congr_right fun lists => ?_
  have distinct := lists.distinct json (by decide)
  have text (name : String) :=
    exists_fieldIs_iff name distinct fun v _ => Iff.refl (∃ s, v = .text s)
  have word32 (name : String) :=
    exists_fieldIs_iff name distinct fun v _ => width32.exists_iff v
  have idle := exists_fieldIs_iff "idle-timeout" distinct fun v _ => exists_int64_iff v
  have nodelay := exists_fieldIs_iff "tcp-nodelay" distinct
    fun v _ => Iff.refl (∃ b, v = .flag b)
  have transfer := exists_fieldIs_iff "topology-state-transfer" distinct
    fun v given => StateTransfer.exists_told_iff (lists.json json (_, v) given.1)
  simp only [types, List.forall_mem_cons, List.not_mem_nil, false_imp_iff, implies_true, and_true]
  constructor
  · rintro ⟨s, h⟩
    exact ⟨(text _).mp ⟨_, h.name⟩, (text _).mp ⟨_, h.cacheContainer⟩,
      (text _).mp ⟨_, h.socketBinding⟩, (word32 _).mp ⟨_, h.workerThreads⟩,
      idle.mp ⟨_, h.idleTimeout⟩, nodelay.mp ⟨_, h.tcpNodelay⟩,
      (word32 _).mp ⟨_, h.sendBufferSize⟩, (word32 _).mp ⟨_, h.receiveBufferSize⟩,
      transfer.mp ⟨_, h.stateTransfer⟩⟩
  · rintro ⟨h₁, h₂, h₃, h₄, h₅, h₆, h₇, h₈, h₉⟩
    obtain ⟨name, h₁⟩ := (text _).mpr h₁
    obtain ⟨cacheContainer, h₂⟩ := (text _).mpr h₂
    obtain ⟨socketBinding, h₃⟩ := (text _).mpr h₃
    obtain ⟨workerThreads, h₄⟩ := (word32 _).mpr h₄
    obtain ⟨idleTimeout, h₅⟩ := idle.mpr h₅
    obtain ⟨tcpNodelay, h₆⟩ := nodelay.mpr h₆
    obtain ⟨sendBufferSize, h₇⟩ := (word32 _).mpr h₇
    obtain ⟨receiveBufferSize, h₈⟩ := (word32 _).mpr h₈
    obtain ⟨stateTransfer, h₉⟩ := transfer.mpr h₉
    exact ⟨⟨name, cacheContainer, socketBinding, workerThreads, idleTimeout, tcpNodelay,
      sendBufferSize, receiveBufferSize, stateTransfer⟩, h₁, h₂, h₃, h₄, h₅, h₆, h₇, h₈, h₉⟩

/-- An object is read from its fields. -/
theorem ofValue?_object (fields : List (String × Value)) :
    ofValue? (object fields) = read? fieldReader fields := by
  change (block? fieldNames (object fields)).bind _ = _
  rw [block?_object]
  rfl

/-- A list is read like the object of its values, if it has one for each setting. -/
theorem ofValue?_list (items : List Value) :
    ofValue? (list items) =
      if items.length = 9 then ofValue? (object (fieldNames.zip items)) else none := by
  rw [ofValue?_object]
  change (if items.length = 9 then some (fieldNames.zip items) else none).bind _ = _
  split <;> rfl

/-- Objects in which the same is given are read alike. -/
theorem ofValue?_of_alike {fields' : List (String × Value)}
    (distinct : (fields.map Prod.fst).Nodup) (distinct' : (fields'.map Prod.fst).Nodup)
    (alike : GivenAlike fieldNames fields fields') :
    ofValue? (object fields) = ofValue? (object fields') := by
  rw [ofValue?_object, ofValue?_object]
  refine read?_congr (fun read name hname _ => ?_) ?_
  · exact field_of_alike distinct distinct' (alike name hname) read
  · exact field_of_alike distinct distinct' (alike _ (by decide)) _

/-- Settings do not change if their block is replaced by one that is read alike. -/
theorem ofValue?_replace_block {v w : Value} (hv : v.isPresent = true) (hw : w.isPresent = true)
    (same : StateTransfer.ofBlock? fieldReader v = StateTransfer.ofBlock? fieldReader w)
    (before after : List (String × Value)) :
    ofValue? (object (before ++ ("topology-state-transfer", v) :: after)) =
      ofValue? (object (before ++ ("topology-state-transfer", w) :: after)) := by
  rw [ofValue?_object, ofValue?_object]
  refine read?_congr (fun read name _ hne => ?_) ?_
  · exact FieldReader.field_replace (fun h => absurd h.symm hne) before after
  · refine FieldReader.field_replace (fun _ => ?_) before after
    rw [optional_eq, optional_eq, hv, hw, same]

/-- Settings with a block that cannot be read cannot be read. -/
theorem ofValue?_eq_none {v : Value} (hv : v.isPresent = true)
    (unread : StateTransfer.ofBlock? fieldReader v = none) (before after : List (String × Value)) :
    ofValue? (object (before ++ ("topology-state-transfer", v) :: after)) = none := by
  have hblock : fieldReader.optional (StateTransfer.ofBlock? fieldReader) v = none := by
    rw [optional_eq, hv, unread]
    rfl
  rw [ofValue?_object]
  refine Option.eq_none_iff_forall_ne_some.mpr fun s h => ?_
  obtain ⟨_, _, _, _, _, _, _, _, hread⟩ := read?_eq_some_iff.mp h
  rw [FieldReader.field_eq_none hblock before after] at hread
  cases hread

/-- A list in the place of the block is read like the object of its values, if it has one for each
setting of a block. -/
theorem ofValue?_listed_block (items : List Value) (before after : List (String × Value)) :
    ofValue? (object (before ++ ("topology-state-transfer", list items) :: after)) =
      if items.length = 6 then
        ofValue? (object (before ++
          ("topology-state-transfer", object (StateTransfer.fieldNames.zip items)) :: after))
      else none := by
  have hlist : StateTransfer.ofBlock? fieldReader (list items) =
      (if items.length = 6 then some (StateTransfer.fieldNames.zip items) else none).bind
        (StateTransfer.read? fieldReader) := rfl
  split
  · next complete =>
    refine ofValue?_replace_block rfl rfl ?_ before after
    rw [hlist, if_pos complete, StateTransfer.ofBlock?_object]
    rfl
  · next incomplete =>
    refine ofValue?_eq_none rfl ?_ before after
    rw [hlist, if_neg incomplete]
    rfl

/-- A JSON value is read as settings exactly if it lists them by name, or completely and in order,
and each one that is given has its type, that of the block being one level down what that of the
settings is; and it is read as the settings that it declares: each is what is given under its name,
and absent if nothing is. The order of fields, other names and fields that hold nothing make no
difference, neither in the settings nor in the block. A list is read like the object of its values
if it has all of them, nine for the settings and six for the block, and else not at all. -/
theorem settings_are_read_as_declared {v : Value} (json : v.IsJson) :
    ((∃ s, ofValue? v = some s) ↔ v.Fits types) ∧
    (∀ s, ofValue? v = some s ↔ Told v s) ∧
    (∀ fields fields', (fields.map Prod.fst).Nodup → (fields'.map Prod.fst).Nodup →
      GivenAlike fieldNames fields fields' →
        ofValue? (object fields) = ofValue? (object fields')) ∧
    (∀ before after inner inner', (inner.map Prod.fst).Nodup → (inner'.map Prod.fst).Nodup →
      GivenAlike StateTransfer.fieldNames inner inner' →
        ofValue? (object (before ++ ("topology-state-transfer", object inner) :: after)) =
          ofValue? (object (before ++ ("topology-state-transfer", object inner') :: after))) ∧
    (∀ items, ofValue? (list items) =
      if items.length = 9 then ofValue? (object (fieldNames.zip items)) else none) ∧
    ∀ before after items,
      ofValue? (object (before ++ ("topology-state-transfer", list items) :: after)) =
        if items.length = 6 then
          ofValue? (object (before ++
            ("topology-state-transfer", object (StateTransfer.fieldNames.zip items)) :: after))
        else none := by
  refine ⟨?_, fun s => ofValue?_iff_told json, ?_, ?_, ofValue?_list, ?_⟩
  · rw [← exists_told_iff json]
    exact exists_congr fun s => ofValue?_iff_told json
  · exact fun fields fields' distinct distinct' alike => ofValue?_of_alike distinct distinct' alike
  · intro before after inner inner' distinct distinct' alike
    exact ofValue?_replace_block rfl rfl
      (StateTransfer.ofBlock?_of_alike distinct distinct' alike) before after
  · exact fun before after items => ofValue?_listed_block items before after

/-- Numbers at the ends of their ranges, a block that is a list, a field that holds nothing and one
of another name, in no particular order. -/
theorem settings_at_the_ends_of_ranges :
    let v := object
      [("topology-state-transfer", .list [.natural 18446744073709551615, .null, .natural 0,
          .text "proxy", .natural 65535, .flag true]),
        ("idle-timeout", .negative 9223372036854775808), ("colour", .real),
        ("worker-threads", .natural 4294967295), ("name", .null), ("tcp-nodelay", .flag false)]
    v.IsJson ∧ Told v
      { workerThreads := some 4294967295
        idleTimeout := some Int64.minValue
        tcpNodelay := some false
        stateTransfer := some
          { lockTimeout := some 18446744073709551615
            updateTimeout := some 0
            externalHost := some "proxy"
            externalPort := some 65535
            lazyRetrieval := some true } } := by
  intro v
  have json : v.IsJson := by
    refine .object (by decide) ?_
    simp only [List.forall_mem_cons, List.not_mem_nil, false_imp_iff, implies_true, and_true]
    refine ⟨.list ?_, .negative _, .real, .natural _, .null, .flag _⟩
    simp only [List.forall_mem_cons, List.not_mem_nil, false_imp_iff, implies_true, and_true]
    exact ⟨.natural _, .null, .natural _, .text _, .natural _, .flag _⟩
  exact ⟨json, ((settings_are_read_as_declared json).2.1 _).mp (by decide)⟩

end Settings

end ConnectorLifecycle
