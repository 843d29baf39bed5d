import ConnectorLifecycle.Settings
import ConnectorLifecycle.Value

/-!
# Reading settings

Settings can be written in several notations, and each notation has its own idea of which text is a
number or a truth value. A `FieldReader` holds these ideas; which settings there are, how large each
may be and that none may be given twice is said once, in `Settings.read?`. Keys that are no settings
are ignored. `Settings.ofValue?` reads a value of open shape: a record, or a list of all settings in
the order in which the structure declares them.
-/

namespace ConnectorLifecycle

/-- How the values of one notation are read as settings. -/
structure FieldReader (σ : Type) where
  /-- Whether a value is there at all, unless it cannot be read. -/
  present? : σ → Option Bool
  /-- The text of a value. -/
  text? : σ → Option String
  /-- The truth value of a value. -/
  flag? : σ → Option Bool
  /-- The number without sign of a value. -/
  natural? : σ → Option Nat
  /-- The integer of a value. -/
  integer? : σ → Option Int
  /-- The named values inside a value, given the names in order. -/
  block? : List String → σ → Option (List (String × σ))

namespace FieldReader

variable {σ α : Type}

/-- Read a value that may be absent. -/
def optional (r : FieldReader σ) (read : σ → Option α) (v : σ) : Option (Option α) :=
  match r.present? v with
  | some true => (read v).map some
  | some false => some none
  | none => none

/-- Read the value of a name, which may occur once. -/
def field (r : FieldReader σ) (read : σ → Option α) (entries : List (String × σ))
    (name : String) : Option (Option α) :=
  match entries.filter fun e => e.1 = name with
  | [] => some none
  | [(_, v)] => r.optional read v
  | _ => none

/-- A number of sixteen bits. -/
def word16? (r : FieldReader σ) (v : σ) : Option UInt16 :=
  (r.natural? v).bind fun n => if n < UInt16.size then some (UInt16.ofNat n) else none

/-- A number of thirty-two bits. -/
def word32? (r : FieldReader σ) (v : σ) : Option UInt32 :=
  (r.natural? v).bind fun n => if n < UInt32.size then some (UInt32.ofNat n) else none

/-- A number of sixty-four bits. -/
def word64? (r : FieldReader σ) (v : σ) : Option UInt64 :=
  (r.natural? v).bind fun n => if n < UInt64.size then some (UInt64.ofNat n) else none

/-- An integer of sixty-four bits. -/
def int64? (r : FieldReader σ) (v : σ) : Option Int64 :=
  (r.integer? v).bind fun n =>
    if Int64.minValue.toInt ≤ n ∧ n ≤ Int64.maxValue.toInt then some (Int64.ofInt n) else none

end FieldReader

namespace StateTransfer

/-- The names of the settings of a block, in order. -/
def fieldNames : List String :=
  ["lock-timeout", "replication-timeout", "update-timeout", "external-host", "external-port",
    "lazy-retrieval"]

/-- Read a block from named values. -/
def read? {σ : Type} (r : FieldReader σ) (entries : List (String × σ)) :
    Option StateTransfer := do
  let lockTimeout ← r.field r.word64? entries "lock-timeout"
  let replicationTimeout ← r.field r.word64? entries "replication-timeout"
  let updateTimeout ← r.field r.word64? entries "update-timeout"
  let externalHost ← r.field r.text? entries "external-host"
  let externalPort ← r.field r.word16? entries "external-port"
  let lazyRetrieval ← r.field r.flag? entries "lazy-retrieval"
  some { lockTimeout, replicationTimeout, updateTimeout, externalHost, externalPort,
         lazyRetrieval }

/-- Read a value that is a block. -/
def ofBlock? {σ : Type} (r : FieldReader σ) (v : σ) : Option StateTransfer :=
  (r.block? fieldNames v).bind (read? r)

end StateTransfer

namespace Settings

/-- The names of the settings, in order. -/
def fieldNames : List String :=
  ["name", "cache-container", "socket-binding", "worker-threads", "idle-timeout", "tcp-nodelay",
    "send-buffer-size", "receive-buffer-size", "topology-state-transfer"]

/-- Read settings from named values. -/
def read? {σ : Type} (r : FieldReader σ) (entries : List (String × σ)) : Option Settings := do
  let name ← r.field r.text? entries "name"
  let cacheContainer ← r.field r.text? entries "cache-container"
  let socketBinding ← r.field r.text? entries "socket-binding"
  let workerThreads ← r.field r.word32? entries "worker-threads"
  let idleTimeout ← r.field r.int64? entries "idle-timeout"
  let tcpNodelay ← r.field r.flag? entries "tcp-nodelay"
  let sendBufferSize ← r.field r.word32? entries "send-buffer-size"
  let receiveBufferSize ← r.field r.word32? entries "receive-buffer-size"
  let stateTransfer ←
    r.field (StateTransfer.ofBlock? r) entries "topology-state-transfer"
  some { name, cacheContainer, socketBinding, workerThreads, idleTimeout, tcpNodelay,
         sendBufferSize, receiveBufferSize, stateTransfer }

/-- Read a value that holds settings. -/
def ofBlock? {σ : Type} (r : FieldReader σ) (v : σ) : Option Settings :=
  (r.block? fieldNames v).bind (read? r)

end Settings

namespace Value

/-- The name that a key stands for: its text, or the name at its place among those in order. A place
beyond the last name stands for no name. -/
def fieldName? (names : List String) : Value → Option (Option String)
  | text s => some (some s)
  | natural n => some names[n]?
  | _ => none

/-- The named values of a record. -/
def namedEntries? (names : List String) :
    List (Value × Value) → Option (List (String × Value))
  | [] => some []
  | (key, v) :: rest => do
    let name ← fieldName? names key
    let others ← namedEntries? names rest
    match name with
    | some s => some ((s, v) :: others)
    | none => some others

/-- The named values inside a value: those of a record, or those of a list of all in order. -/
def block? (names : List String) : Value → Option (List (String × Value))
  | record entries => namedEntries? names entries
  | list items => if items.length = names.length then some (names.zip items) else none
  | _ => none

/-- Values of open shape as settings: each kind of value fits settings of its own kind only. -/
def fieldReader : FieldReader Value where
  present? v := some v.isPresent
  text? := text?
  flag? := flag?
  natural? := natural?
  integer? := integer?
  block? := block?

end Value

/-- The settings that a value holds. -/
def Settings.ofValue? (v : Value) : Option Settings := Settings.ofBlock? Value.fieldReader v

end ConnectorLifecycle
