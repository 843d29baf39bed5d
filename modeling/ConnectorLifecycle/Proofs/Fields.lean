import ConnectorLifecycle.Settings.Reading

/-!
# Fields and the values under their names

Settings and their block are read field by field, and a field sees only the values under its own
name: none, one, or too many. So two lists of named values with the same under every name are read
alike, whatever the notation.
-/

namespace ConnectorLifecycle

namespace FieldReader

variable {σ α : Type}

/-- The values under a name. -/
def valuesOf (name : String) (entries : List (String × σ)) : List σ :=
  (entries.filter fun e => e.1 = name).map Prod.snd

theorem mem_valuesOf {name : String} {entries : List (String × σ)} {v : σ} :
    v ∈ valuesOf name entries ↔ (name, v) ∈ entries := by
  simp [valuesOf]

theorem valuesOf_cons_self (name : String) (v : σ) (entries : List (String × σ)) :
    valuesOf name ((name, v) :: entries) = v :: valuesOf name entries := by
  simp [valuesOf]

theorem valuesOf_cons_of_ne {name other : String} (v : σ) {entries : List (String × σ)}
    (h : other ≠ name) : valuesOf name ((other, v) :: entries) = valuesOf name entries := by
  simp [valuesOf, h]

theorem valuesOf_append (name : String) (entries entries' : List (String × σ)) :
    valuesOf name (entries ++ entries') = valuesOf name entries ++ valuesOf name entries' := by
  simp [valuesOf]

/-- A field is read off the values under its name. -/
theorem field_eq (r : FieldReader σ) (read : σ → Option α) (entries : List (String × σ))
    (name : String) :
    r.field read entries name =
      match valuesOf name entries with
      | [] => some none
      | [v] => r.optional read v
      | _ => none := by
  rw [field, valuesOf]
  cases entries.filter fun e => e.1 = name with
  | nil => rfl
  | cons e rest => cases rest <;> rfl

/-- A value that stands alone under its name is read if the field is. -/
theorem exists_of_field {r : FieldReader σ} {read : σ → Option α} {entries : List (String × σ)}
    {name : String} {o : Option α} {v : σ} (h : r.field read entries name = some o)
    (mem : (name, v) ∈ entries) : r.optional read v = some o := by
  rw [field_eq] at h
  have hv := mem_valuesOf.mpr mem
  cases hvalues : valuesOf name entries with
  | nil => simp [hvalues] at hv
  | cons w rest =>
    rw [hvalues] at h hv
    cases rest with
    | nil =>
      cases List.mem_singleton.mp hv
      exact h
    | cons => cases h

/-- A field does not change if a value is replaced by one that is read alike, or that stands under
another name. -/
theorem field_replace {r : FieldReader σ} {read : σ → Option α} {name other : String} {v w : σ}
    (same : other = name → r.optional read v = r.optional read w)
    (before after : List (String × σ)) :
    r.field read (before ++ (other, v) :: after) name =
      r.field read (before ++ (other, w) :: after) name := by
  rw [field_eq, field_eq, valuesOf_append, valuesOf_append]
  by_cases h : other = name
  · subst h
    rw [valuesOf_cons_self, valuesOf_cons_self]
    generalize valuesOf other before = front
    generalize valuesOf other after = back
    cases front with
    | nil =>
      cases back with
      | nil => exact same rfl
      | cons => rfl
    | cons _ front => cases front <;> rfl
  · rw [valuesOf_cons_of_ne _ h, valuesOf_cons_of_ne _ h]

/-- A field with a value that cannot be read cannot be read. -/
theorem field_eq_none {r : FieldReader σ} {read : σ → Option α} {name : String} {v : σ}
    (unread : r.optional read v = none) (before after : List (String × σ)) :
    r.field read (before ++ (name, v) :: after) name = none := by
  refine Option.eq_none_iff_forall_ne_some.mpr fun o h => ?_
  have hread := exists_of_field h List.mem_append_cons_self
  rw [unread] at hread
  cases hread

end FieldReader

/-- A value of open shape is read if it is there. -/
theorem Value.optional_eq {α : Type} (v : Value) (read : Value → Option α) :
    Value.fieldReader.optional read v =
      if v.isPresent then (read v).map some else some none := by
  have hpresent : Value.fieldReader.present? v = some v.isPresent := rfl
  rw [FieldReader.optional, hpresent]
  cases v.isPresent <;> rfl

namespace StateTransfer

/-- A block is read field by field. -/
theorem read?_eq_some_iff {σ : Type} {r : FieldReader σ} {entries : List (String × σ)}
    {block : StateTransfer} :
    read? r entries = some block ↔
      r.field r.word64? entries "lock-timeout" = some block.lockTimeout ∧
      r.field r.word64? entries "replication-timeout" = some block.replicationTimeout ∧
      r.field r.word64? entries "update-timeout" = some block.updateTimeout ∧
      r.field r.text? entries "external-host" = some block.externalHost ∧
      r.field r.word16? entries "external-port" = some block.externalPort ∧
      r.field r.flag? entries "lazy-retrieval" = some block.lazyRetrieval := by
  simp only [read?, Option.bind_eq_bind, Option.bind_eq_some_iff]
  constructor
  · rintro ⟨a, ha, b, hb, c, hc, e, he, f, hf, g, hg, heq⟩
    cases heq
    exact ⟨ha, hb, hc, he, hf, hg⟩
  · rintro ⟨ha, hb, hc, he, hf, hg⟩
    exact ⟨_, ha, _, hb, _, hc, _, he, _, hf, _, hg, rfl⟩

/-- Values with the same fields are read as the same block. -/
theorem read?_congr {σ : Type} {r : FieldReader σ} {entries entries' : List (String × σ)}
    (same : ∀ {α : Type} (read : σ → Option α), ∀ name ∈ fieldNames,
      r.field read entries name = r.field read entries' name) :
    read? r entries = read? r entries' := by
  unfold read?
  rw [same _ "lock-timeout" (by decide), same _ "replication-timeout" (by decide),
    same _ "update-timeout" (by decide), same _ "external-host" (by decide),
    same _ "external-port" (by decide), same _ "lazy-retrieval" (by decide)]

end StateTransfer

namespace Settings

/-- Settings are read field by field. -/
theorem read?_eq_some_iff {σ : Type} {r : FieldReader σ} {entries : List (String × σ)}
    {settings : Settings} :
    read? r entries = some settings ↔
      r.field r.text? entries "name" = some settings.name ∧
      r.field r.text? entries "cache-container" = some settings.cacheContainer ∧
      r.field r.text? entries "socket-binding" = some settings.socketBinding ∧
      r.field r.word32? entries "worker-threads" = some settings.workerThreads ∧
      r.field r.int64? entries "idle-timeout" = some settings.idleTimeout ∧
      r.field r.flag? entries "tcp-nodelay" = some settings.tcpNodelay ∧
      r.field r.word32? entries "send-buffer-size" = some settings.sendBufferSize ∧
      r.field r.word32? entries "receive-buffer-size" = some settings.receiveBufferSize ∧
      r.field (StateTransfer.ofBlock? r) entries "topology-state-transfer" =
        some settings.stateTransfer := by
  simp only [read?, Option.bind_eq_bind, Option.bind_eq_some_iff]
  constructor
  · rintro ⟨a, ha, b, hb, c, hc, e, he, f, hf, g, hg, i, hi, j, hj, k, hk, heq⟩
    cases heq
    exact ⟨ha, hb, hc, he, hf, hg, hi, hj, hk⟩
  · rintro ⟨ha, hb, hc, he, hf, hg, hi, hj, hk⟩
    exact ⟨_, ha, _, hb, _, hc, _, he, _, hf, _, hg, _, hi, _, hj, _, hk, rfl⟩

/-- Values with the same fields, among them the same block, are read as the same settings. -/
theorem read?_congr {σ : Type} {r : FieldReader σ} {entries entries' : List (String × σ)}
    (same : ∀ {α : Type} (read : σ → Option α), ∀ name ∈ fieldNames,
      name ≠ "topology-state-transfer" →
        r.field read entries name = r.field read entries' name)
    (block : r.field (StateTransfer.ofBlock? r) entries "topology-state-transfer" =
      r.field (StateTransfer.ofBlock? r) entries' "topology-state-transfer") :
    read? r entries = read? r entries' := by
  unfold read?
  rw [same _ "name" (by decide) (by decide), same _ "cache-container" (by decide) (by decide),
    same _ "socket-binding" (by decide) (by decide),
    same _ "worker-threads" (by decide) (by decide), same _ "idle-timeout" (by decide) (by decide),
    same _ "tcp-nodelay" (by decide) (by decide), same _ "send-buffer-size" (by decide) (by decide),
    same _ "receive-buffer-size" (by decide) (by decide), block]

end Settings

end ConnectorLifecycle
