import Mathlib.Data.List.Forall2
import ConnectorLifecycle.Proofs.Yaml.Looks

/-!
# Settings read directly and in a definition

The same mapping can be read directly as settings, or next to the kind of a connector in a
definition. The two ways find the same settings in it, except where the look of a scalar misleads
the second one, which knows too late what is expected: a text that looks like a number or a truth
value is refused there, while a zero with a minus sign, or a block that is a list, is taken. The
definition also has to hold every value, even one that nobody asks for.
-/

namespace ConnectorLifecycle

namespace FieldReader

variable {σ τ α : Type}

/-- What stands under a name in one list has its counterpart in the other. -/
theorem exists_related {R : σ → τ → Prop} {xs : List (String × σ)} {ys : List (String × τ)}
    {name : String} {x : σ} (related : List.Forall₂ R (valuesOf name xs) (valuesOf name ys))
    (mem : (name, x) ∈ xs) : ∃ y, (name, y) ∈ ys ∧ R x y := by
  obtain ⟨i, hi, hx⟩ := List.getElem_of_mem (mem_valuesOf.mpr mem)
  have hi' : i < (valuesOf name ys).length := related.length_eq ▸ hi
  have hrelated := related.get hi hi'
  refine ⟨(valuesOf name ys)[i], mem_valuesOf.mp (List.getElem_mem hi'), ?_⟩
  rw [← hx]
  exact hrelated

/-- What holds of two values that stand for each other holds of the fields. -/
theorem field_iff {r : FieldReader σ} {r' : FieldReader τ} {read : σ → Option α}
    {read' : τ → Option α} {R : σ → τ → Prop} {P Q : σ → Prop} {xs : List (String × σ)}
    {ys : List (String × τ)} {name : String}
    (related : List.Forall₂ R (valuesOf name xs) (valuesOf name ys))
    (alike : ∀ x y o, (name, x) ∈ xs → R x y →
      (r.optional read x = some o ∧ P x ↔ r'.optional read' y = some o ∧ Q x))
    (o : Option α) :
    (r.field read xs name = some o ∧ ∀ x, (name, x) ∈ xs → P x) ↔
      (r'.field read' ys name = some o ∧ ∀ x, (name, x) ∈ xs → Q x) := by
  simp only [← mem_valuesOf] at alike ⊢
  rw [field_eq, field_eq]
  generalize valuesOf name xs = vs at related alike ⊢
  generalize valuesOf name ys = ws at related ⊢
  cases related with
  | nil => simp
  | cons first others =>
    cases others with
    | nil => simpa using alike _ _ o List.mem_cons_self first
    | cons => simp

end FieldReader

open Yaml Document FieldReader

variable {d : Document} {xs : List (String × Node)} {ys : List (String × Value)}

/-- Numbers too large for sixty-four bits are no numbers of sixteen, thirty-two or sixty-four. -/
theorem bounded_of_le {α : Type} {size : Nat} (hsize : size ≤ UInt64.size) (make : Nat → α)
    (n : Nat) (h : UInt64.size ≤ n) : (if n < size then some (make n) else none) = none := by
  have hout : ¬ n < size := by omega
  exact if_neg hout

/-- Under each of some names stand nodes in one list and what they look like in the other. -/
def Alike (d : Document) (names : List String) (xs : List (String × Node))
    (ys : List (String × Value)) : Prop :=
  ∀ name ∈ names, List.Forall₂ (Look d) (valuesOf name xs) (valuesOf name ys)

namespace Alike

variable {α : Type} {names : List String} (h : Alike d names xs ys) (name : String)
  (mem : name ∈ names)

include h mem

/-- A text is read in a definition if it looks like one. -/
theorem text_field (o : Option String) :
    Value.fieldReader.field Value.fieldReader.text? ys name = some o ↔
      d.fieldReader.field d.fieldReader.text? xs name = some o ∧
        ∀ x, (name, x) ∈ xs → d.LooksTextual x := by
  have alike : ∀ x y o, (name, x) ∈ xs → Look d x y →
      (d.fieldReader.optional d.fieldReader.text? x = some o ∧ d.LooksTextual x ↔
        Value.fieldReader.optional Value.fieldReader.text? y = some o ∧ True) := by
    intro x y o _ look
    rw [and_true]
    exact look.text_iff.symm
  rw [field_iff (h name mem) alike o]
  simp

/-- A number without sign is read directly if it is no zero with a minus sign. -/
theorem count_field {f : Nat → Option α} (bounded : ∀ n, UInt64.size ≤ n → f n = none)
    (o : Option α) :
    d.fieldReader.field (fun x => (d.fieldReader.natural? x).bind f) xs name = some o ↔
      Value.fieldReader.field (fun x => (Value.natural? x).bind f) ys name = some o ∧
        ∀ x, (name, x) ∈ xs → ¬ d.IsMinusZero x := by
  have alike : ∀ x y o, (name, x) ∈ xs → Look d x y →
      (d.fieldReader.optional (fun x => (d.fieldReader.natural? x).bind f) x = some o ∧ True ↔
        Value.fieldReader.optional (fun x => (Value.natural? x).bind f) y = some o ∧
          ¬ d.IsMinusZero x) := by
    intro x y o _ look
    rw [look.count_iff bounded, and_true]
  rw [← field_iff (h name mem) alike o]
  simp

theorem word64_field (o : Option UInt64) :
    d.fieldReader.field d.fieldReader.word64? xs name = some o ↔
      Value.fieldReader.field Value.fieldReader.word64? ys name = some o ∧
        ∀ x, (name, x) ∈ xs → ¬ d.IsMinusZero x :=
  count_field h name mem (bounded_of_le (Nat.le_refl _) UInt64.ofNat) o

theorem word32_field (o : Option UInt32) :
    d.fieldReader.field d.fieldReader.word32? xs name = some o ↔
      Value.fieldReader.field Value.fieldReader.word32? ys name = some o ∧
        ∀ x, (name, x) ∈ xs → ¬ d.IsMinusZero x :=
  count_field h name mem (bounded_of_le (by decide) UInt32.ofNat) o

theorem word16_field (o : Option UInt16) :
    d.fieldReader.field d.fieldReader.word16? xs name = some o ↔
      Value.fieldReader.field Value.fieldReader.word16? ys name = some o ∧
        ∀ x, (name, x) ∈ xs → ¬ d.IsMinusZero x :=
  count_field h name mem (bounded_of_le (by decide) UInt16.ofNat) o

/-- A value that both ways read alike is found by both. -/
theorem same_field {read : Node → Option α} {read' : Value → Option α}
    (same : ∀ x y, Look d x y →
      Value.fieldReader.optional read' y = d.fieldReader.optional read x) (o : Option α) :
    Value.fieldReader.field read' ys name = some o ↔ d.fieldReader.field read xs name = some o := by
  have alike : ∀ x y o, (name, x) ∈ xs → Look d x y →
      (d.fieldReader.optional read x = some o ∧ True ↔
        Value.fieldReader.optional read' y = some o ∧ True) := by
    intro x y o _ look
    rw [same x y look]
  have hiff := field_iff (h name mem) alike o
  simpa using hiff.symm

theorem flag_field (o : Option Bool) :
    Value.fieldReader.field Value.fieldReader.flag? ys name = some o ↔
      d.fieldReader.field d.fieldReader.flag? xs name = some o :=
  same_field h name mem (fun _ _ look => look.flag_eq) o

theorem int64_field (o : Option Int64) :
    Value.fieldReader.field Value.fieldReader.int64? ys name = some o ↔
      d.fieldReader.field d.fieldReader.int64? xs name = some o :=
  same_field h name mem (fun _ _ look => look.int64_eq) o

end Alike

namespace StateTransfer

/-- The settings of a block that are numbers without sign. -/
def countNames : List String :=
  ["lock-timeout", "replication-timeout", "update-timeout", "external-port"]

/-- Alike values make the same block. -/
theorem read?_iff (h : Alike d fieldNames xs ys) (block : StateTransfer) :
    read? d.fieldReader xs = some block ∧ (∀ x, ("external-host", x) ∈ xs → d.LooksTextual x) ↔
      read? Value.fieldReader ys = some block ∧
        ∀ name ∈ countNames, ∀ x, (name, x) ∈ xs → ¬ d.IsMinusZero x := by
  rw [read?_eq_some_iff, read?_eq_some_iff]
  have lock := h.word64_field "lock-timeout" (by decide) block.lockTimeout
  have replication :=
    h.word64_field "replication-timeout" (by decide) block.replicationTimeout
  have update := h.word64_field "update-timeout" (by decide) block.updateTimeout
  have host := h.text_field "external-host" (by decide) block.externalHost
  have port := h.word16_field "external-port" (by decide) block.externalPort
  have lazily := h.flag_field "lazy-retrieval" (by decide) block.lazyRetrieval
  simp only [countNames, List.forall_mem_cons, List.not_mem_nil, false_imp_iff, implies_true]
  rw [lock, replication, update, port, lazily]
  constructor
  · rintro ⟨⟨⟨h₁, q₁⟩, ⟨h₂, q₂⟩, ⟨h₃, q₃⟩, h₄, ⟨h₅, q₅⟩, h₆⟩, p₄⟩
    exact ⟨⟨h₁, h₂, h₃, host.mpr ⟨h₄, p₄⟩, h₅, h₆⟩, q₁, q₂, q₃, q₅, trivial⟩
  · rintro ⟨⟨h₁, h₂, h₃, h₄, h₅, h₆⟩, q₁, q₂, q₃, q₅, _⟩
    obtain ⟨h₄, p₄⟩ := host.mp h₄
    exact ⟨⟨⟨h₁, q₁⟩, ⟨h₂, q₂⟩, ⟨h₃, q₃⟩, h₄, ⟨h₅, q₅⟩, h₆⟩, p₄⟩

/-- The names of the settings look like texts. -/
theorem fieldNames_textual : ∀ name ∈ fieldNames, Meaning.value? name = some (.text name) := by
  simp only [fieldNames, List.forall_mem_cons, List.not_mem_nil, false_imp_iff, implies_true,
    and_true]
  refine ⟨?_, ?_, ?_, ?_, ?_, ?_⟩ <;> rfl

/-- A key that can be read is read as its text, or as a number that stands for no setting. -/
theorem key_cases {key : Node} {u : Value} (look : Look d key u) (looks : d.LooksLikeKey key) :
    (d.text? key = none ∧ Value.fieldName? fieldNames u = none) ∨
      (∃ s, d.text? key = some s ∧ Value.fieldName? fieldNames u = some (some s)) ∨
      ∃ s, d.text? key = some s ∧ s ∉ fieldNames ∧ Value.fieldName? fieldNames u = some none := by
  cases look with
  | @plain s _ stands means =>
    have htext : d.text? key = some s := by rw [Document.text?, stands]
    rcases looks s u stands means with rfl | ⟨n, hlarge, rfl⟩
    · exact .inr (.inl ⟨s, htext, rfl⟩)
    · refine .inr (.inr ⟨s, htext, ?_, ?_⟩)
      · intro hmem
        cases (fieldNames_textual s hmem).symm.trans means
      · rw [Value.fieldName?, List.getElem?_eq_none hlarge]
  | @quoted _ s _ stands =>
    have htext : d.text? key = some s := by rw [Document.text?, stands]
    exact .inr (.inl ⟨s, htext, rfl⟩)
  | list stands => exact .inl ⟨by rw [Document.text?, stands], rfl⟩
  | record stands => exact .inl ⟨by rw [Document.text?, stands], rfl⟩

/-- What a mapping holds under the names of the settings, both ways find alike. -/
theorem entries_alike {depth count : Nat} {entries : List (Node × Node)}
    {vs : List (Value × Value)} (hd : d.untagged = true) (untagged : untaggedEntries entries = true)
    (each : HeldEntries d depth entries vs count)
    (looks : ∀ e ∈ entries, d.LooksLikeKey e.1) :
    (d.namedEntries? entries = none ∧ Value.namedEntries? fieldNames vs = none) ∨
      ∃ xs ys, d.namedEntries? entries = some xs ∧
        Value.namedEntries? fieldNames vs = some ys ∧ Alike d fieldNames xs ys := by
  induction entries generalizing vs count with
  | nil =>
    cases each
    exact .inr ⟨[], [], rfl, rfl, fun _ _ => .nil⟩
  | cons e rest ih =>
    obtain ⟨key, value⟩ := e
    rw [untaggedEntries, Bool.and_eq_true, Bool.and_eq_true] at untagged
    obtain ⟨⟨hkey, hvalue⟩, hrest⟩ := untagged
    cases each with
    | @cons _ _ _ _ _ _ u v _ vs named first others =>
      have lookKey := named.look hd hkey
      have lookValue := first.look hd hvalue
      have tail := ih hrest others fun e he => looks e (List.mem_cons_of_mem _ he)
      rw [namedEntries?, Value.namedEntries?]
      rcases key_cases lookKey (looks _ List.mem_cons_self) with
        ⟨htext, hname⟩ | ⟨s, htext, hname⟩ | ⟨s, htext, hnew, hname⟩
      · exact .inl ⟨by simp [htext], by simp [hname]⟩
      · rcases tail with ⟨hxs, hys⟩ | ⟨xs, ys, hxs, hys, alike⟩
        · exact .inl ⟨by simp [htext, hxs], by simp [hname, hys]⟩
        · refine .inr ⟨(s, value) :: xs, (s, v) :: ys, by simp [htext, hxs],
            by simp [hname, hys], ?_⟩
          intro name hmem
          by_cases hs : s = name
          · subst hs
            rw [valuesOf_cons_self, valuesOf_cons_self]
            exact .cons lookValue (alike s hmem)
          · rw [valuesOf_cons_of_ne _ hs, valuesOf_cons_of_ne _ hs]
            exact alike name hmem
      · rcases tail with ⟨hxs, hys⟩ | ⟨xs, ys, hxs, hys, alike⟩
        · exact .inl ⟨by simp [htext, hxs], by simp [hname, hys]⟩
        · refine .inr ⟨(s, value) :: xs, ys, by simp [htext, hxs], by simp [hname, hys], ?_⟩
          intro name hmem
          have hs : s ≠ name := fun heq => hnew (heq ▸ hmem)
          rw [valuesOf_cons_of_ne _ hs]
          exact alike name hmem

/-- A plain scalar means nothing, or something that is no block. -/
theorem null_or_single {text : String} {v : Value} (h : Meaning.Spells text v) :
    v = .null ∨
      text.isEmpty = false ∧ v.isPresent = true ∧ ∀ names, Value.block? names v = none := by
  cases h with
  | null => exact .inl rfl
  | flag filled => exact .inr ⟨(Bool.or_eq_false_iff.mp filled).1, rfl, fun _ => rfl⟩
  | natural filled => exact .inr ⟨(Bool.or_eq_false_iff.mp filled).1, rfl, fun _ => rfl⟩
  | negative filled => exact .inr ⟨(Bool.or_eq_false_iff.mp filled).1, rfl, fun _ => rfl⟩
  | other filled _ _ _ rest =>
    rcases rest with rfl | rfl <;>
      exact .inr ⟨(Bool.or_eq_false_iff.mp filled).1, rfl, fun _ => rfl⟩

/-- Named nodes are those of a mapping, or there are none. -/
theorem entries?_cases {node : Node} {inner : List (String × Node)}
    (h : d.entries? node = some inner) :
    inner = [] ∨ ∃ tag entries, d.follow? node = some (.mapping tag entries) ∧
      d.namedEntries? entries = some inner := by
  rw [Document.entries?] at h
  cases stands : d.follow? node with
  | none => simp [stands] at h
  | some target =>
    rw [stands] at h
    cases target with
    | scalar tag style text =>
      cases style with
      | plain =>
        dsimp only at h
        split at h
        · cases h
          exact .inl rfl
        · cases h
      | _ => cases h
    | mapping tag entries => exact .inr ⟨tag, entries, rfl, h⟩
    | _ => cases h

/-- A list of as many nodes as a block has settings. -/
def IsListed (d : Document) (node : Node) : Prop :=
  ∃ items, d.follow? node = some (.sequence none items) ∧ items.length = fieldNames.length

/-- The keys of a mapping look like keys. -/
def KeysLook (d : Document) (node : Node) : Prop :=
  ∀ entries, d.follow? node = some (.mapping none entries) → ∀ e ∈ entries, d.LooksLikeKey e.1

/-- The host in a mapping looks like a text. -/
def HostLooks (d : Document) (node : Node) : Prop :=
  ∀ inner, d.entries? node = some inner → ∀ x, ("external-host", x) ∈ inner → d.LooksTextual x

/-- No number in a mapping is a zero with a minus sign. -/
def CountsLook (d : Document) (node : Node) : Prop :=
  ∀ inner, d.entries? node = some inner →
    ∀ name ∈ countNames, ∀ x, (name, x) ∈ inner → ¬ d.IsMinusZero x

theorem length_of_heldItems {depth count : Nat} {items : List Node} {vs : List Value}
    (h : HeldItems d depth items vs count) : vs.length = items.length := by
  induction items generalizing vs count with
  | nil => cases h; rfl
  | cons node rest ih =>
    cases h with
    | cons _ others => rw [List.length_cons, List.length_cons, ih others]

/-- A scalar holds nothing whose look could mislead. -/
theorem looks_of_scalar {node : Node} {tag : Option Tag} {style : Style} {text : String}
    (stands : d.follow? node = some (.scalar tag style text)) :
    HostLooks d node ∧ ¬ IsListed d node ∧ CountsLook d node := by
  have empty : ∀ inner, d.entries? node = some inner → inner = [] := by
    intro inner h
    rcases entries?_cases h with rfl | ⟨tag, entries, stands', _⟩
    · rfl
    · cases stands.symm.trans stands'
  refine ⟨?_, ?_, ?_⟩
  · intro inner h x hx
    cases empty inner h
    cases hx
  · rintro ⟨items, stands', _⟩
    cases stands.symm.trans stands'
  · intro inner h name _ x hx
    cases empty inner h
    cases hx

/-- The two ways find the same block, unless a look misleads one of them. -/
theorem block_iff {node : Node} {v : Value} (hd : d.untagged = true)
    (hnode : node.untagged = true) (look : Look d node v) (keys : KeysLook d node)
    (o : Option StateTransfer) :
    d.fieldReader.optional (ofBlock? d.fieldReader) node = some o ∧ HostLooks d node ↔
      Value.fieldReader.optional (ofBlock? Value.fieldReader) v = some o ∧
        ¬ IsListed d node ∧ CountsLook d node := by
  rw [look.optional_node, Value.optional_eq]
  have direct : ofBlock? d.fieldReader node = (d.entries? node).bind (read? d.fieldReader) := rfl
  have open' : ofBlock? Value.fieldReader v =
    (Value.block? fieldNames v).bind (read? Value.fieldReader) := rfl
  rw [direct, open']
  cases look with
  | @plain text _ stands means =>
    obtain ⟨host, unlisted, counts⟩ := looks_of_scalar stands
    have hentries : d.entries? node = if text.isEmpty then some [] else none := by
      rw [Document.entries?, stands]
    rcases null_or_single (Meaning.spells_of_value? means) with rfl | ⟨hfilled, hpresent, hblock⟩
    · simp [Value.isPresent, host, counts, unlisted]
    · simp [hentries, hfilled, hpresent, hblock]
  | @quoted style text styled stands =>
    have hentries : d.entries? node = none := by
      rw [Document.entries?, stands]
      cases style with
      | plain => exact absurd rfl styled
      | _ => rfl
    simp [hentries, Value.block?, Value.isPresent]
  | @list _ _ items vs stands each =>
    have hentries : d.entries? node = none := by rw [Document.entries?, stands]
    have hlength := length_of_heldItems each
    rw [hentries]
    by_cases hlisted : items.length = fieldNames.length
    · have listed : IsListed d node := ⟨items, stands, hlisted⟩
      simp [listed, Value.isPresent]
    · have hblock : Value.block? fieldNames (.list vs) = none := by
        rw [Value.block?, if_neg (hlength ▸ hlisted)]
      simp [hblock, Value.isPresent]
  | @record _ _ entries vs stands each =>
    have unlisted : ¬ IsListed d node := by
      rintro ⟨items, stands', _⟩
      cases stands.symm.trans stands'
    have hentries : d.entries? node = d.namedEntries? entries := by rw [Document.entries?, stands]
    have huntagged := untagged_follow? hd hnode stands
    rw [Node.untagged, Bool.and_eq_true] at huntagged
    rw [HostLooks, CountsLook, hentries, Value.block?]
    rcases entries_alike hd huntagged.2 each (keys entries stands) with
      ⟨hxs, hys⟩ | ⟨xs, ys, hxs, hys, alike⟩
    · simp [hxs, hys, Value.isPresent]
    · rw [hxs, hys]
      cases o with
      | none => simp [Value.isPresent]
      | some block =>
        have hiff := read?_iff alike block
        simpa [Value.isPresent, unlisted] using hiff

/-- What stands under the name of a setting is held under it as well. -/
theorem exists_held {depth count : Nat} {entries : List (Node × Node)} {vs : List (Value × Value)}
    (hd : d.untagged = true) (untagged : untaggedEntries entries = true)
    (each : HeldEntries d depth entries vs count) (hxs : d.namedEntries? entries = some xs)
    (hys : Value.namedEntries? fieldNames vs = some ys) {name : String} (hname : name ∈ fieldNames)
    {x : Node} (mem : (name, x) ∈ xs) : ∃ v, (name, v) ∈ ys ∧ Look d x v := by
  induction entries generalizing vs count xs ys with
  | nil =>
    cases hxs
    cases mem
  | cons e rest ih =>
    obtain ⟨key, value⟩ := e
    rw [untaggedEntries, Bool.and_eq_true, Bool.and_eq_true] at untagged
    obtain ⟨⟨hkey, hvalue⟩, hrest⟩ := untagged
    cases each with
    | @cons _ _ _ _ _ _ u v _ vs named first others =>
      obtain ⟨s, htext, hxs⟩ := Option.bind_eq_some_iff.mp hxs
      obtain ⟨xs', htail, hxs⟩ := Option.bind_eq_some_iff.mp hxs
      cases hxs
      obtain ⟨answer, hanswer, hys⟩ := Option.bind_eq_some_iff.mp hys
      obtain ⟨ys', htail', hys⟩ := Option.bind_eq_some_iff.mp hys
      rcases List.mem_cons.mp mem with heq | mem
      · cases heq
        have hu : u = .text name := by
          cases named.look hd hkey with
          | plain stands means =>
            rw [Document.text?, stands] at htext
            cases htext
            exact Option.some.inj (means.symm.trans (fieldNames_textual name hname))
          | quoted _ stands =>
            rw [Document.text?, stands] at htext
            cases htext
            rfl
          | list stands => rw [Document.text?, stands] at htext; cases htext
          | record stands => rw [Document.text?, stands] at htext; cases htext
        rw [hu, Value.fieldName?] at hanswer
        cases hanswer
        cases hys
        exact ⟨v, List.mem_cons_self, first.look hd hvalue⟩
      · obtain ⟨w, hw, look⟩ := ih hrest others htail htail' mem
        cases answer with
        | none => cases hys; exact ⟨w, hw, look⟩
        | some s' => cases hys; exact ⟨w, List.mem_cons_of_mem _ hw, look⟩

/-- A block that a definition accepts has a host that looks like a text. -/
theorem hostLooks_of_block {node : Node} {v : Value} {o : Option StateTransfer}
    (hd : d.untagged = true) (hnode : node.untagged = true) (look : Look d node v)
    (h : Value.fieldReader.optional (ofBlock? Value.fieldReader) v = some o) :
    HostLooks d node := by
  intro inner hinner x hx
  rcases entries?_cases hinner with rfl | ⟨tag, entries, stands, hxs⟩
  · cases hx
  · have huntagged := untagged_follow? hd hnode stands
    rw [Node.untagged, Bool.and_eq_true] at huntagged
    cases look with
    | plain stands' => cases stands.symm.trans stands'
    | quoted _ stands' => cases stands.symm.trans stands'
    | list stands' => cases stands.symm.trans stands'
    | record stands' each =>
      cases stands.symm.trans stands'
      rw [Value.optional_eq] at h
      obtain ⟨block, hblock, _⟩ := Option.map_eq_some_iff.mp h
      obtain ⟨ys, hys, hread⟩ := Option.bind_eq_some_iff.mp hblock
      obtain ⟨_, _, _, hhost, _, _⟩ := read?_eq_some_iff.mp hread
      obtain ⟨w, hw, look⟩ := exists_held hd huntagged.2 each hxs hys (by decide) hx
      exact (look.text_iff.mp (exists_of_field hhost hw)).2

/-- A number that is read directly is no zero with a minus sign. -/
theorem not_isMinusZero {α : Type} {f : Nat → Option α} {x : Node} {o : Option α}
    (bounded : ∀ n, UInt64.size ≤ n → f n = none)
    (h : d.fieldReader.optional (fun x => (d.fieldReader.natural? x).bind f) x = some o) :
    ¬ d.IsMinusZero x := by
  intro hzero
  obtain ⟨text, stands, means⟩ := hzero
  have look : Look d x (.negative 0) := .plain stands means
  exact ((look.count_iff bounded).mp h).2 ⟨text, stands, means⟩

/-- A block that is read directly is no list, and its numbers have no sign. -/
theorem countsLook_of_block {node : Node} {o : Option StateTransfer}
    (h : d.fieldReader.optional (ofBlock? d.fieldReader) node = some o) :
    ¬ IsListed d node ∧ CountsLook d node := by
  have hread : ofBlock? d.fieldReader node = (d.entries? node).bind (read? d.fieldReader) := rfl
  rw [FieldReader.optional, hread] at h
  constructor
  · rintro ⟨items, stands, _⟩
    have hpresent : d.fieldReader.present? node = some true := by
      change d.present? node = some true
      rw [Document.present?, stands]
    have hentries : d.entries? node = none := by rw [Document.entries?, stands]
    rw [hpresent, hentries] at h
    cases h
  · intro inner hinner name hname x hx
    rcases entries?_cases hinner with rfl | ⟨tag, entries, stands, _⟩
    · cases hx
    · have hpresent : d.fieldReader.present? node = some true := by
        change d.present? node = some true
        rw [Document.present?, stands]
      rw [hpresent, hinner] at h
      obtain ⟨block, hread, _⟩ := Option.map_eq_some_iff.mp h
      obtain ⟨hlock, hreplication, hupdate, _, hport, _⟩ := read?_eq_some_iff.mp hread
      have word64 := bounded_of_le (Nat.le_refl UInt64.size) UInt64.ofNat
      have word16 := bounded_of_le (by decide : UInt16.size ≤ UInt64.size) UInt16.ofNat
      simp only [countNames, List.mem_cons, List.not_mem_nil, or_false] at hname
      rcases hname with rfl | rfl | rfl | rfl
      · exact not_isMinusZero word64 (exists_of_field hlock hx)
      · exact not_isMinusZero word64 (exists_of_field hreplication hx)
      · exact not_isMinusZero word64 (exists_of_field hupdate hx)
      · exact not_isMinusZero word16 (exists_of_field hport hx)

end StateTransfer

namespace Settings

/-- The settings that are texts. -/
def textNames : List String := ["name", "cache-container", "socket-binding"]

/-- The settings that are numbers without sign. -/
def countNames : List String := ["worker-threads", "send-buffer-size", "receive-buffer-size"]

/-- The texts among the settings look like texts, that of the block too. -/
structure TextsLook (d : Document) (xs : List (String × Node)) : Prop where
  /-- Those of the connector. -/
  own : ∀ name ∈ textNames, ∀ x, (name, x) ∈ xs → d.LooksTextual x
  /-- That of the block. -/
  block : ∀ x, ("topology-state-transfer", x) ∈ xs → StateTransfer.HostLooks d x

/-- The numbers without sign have none, not even in front of a zero, and the block is no list. -/
structure CountsLook (d : Document) (xs : List (String × Node)) : Prop where
  /-- Those of the connector. -/
  own : ∀ name ∈ countNames, ∀ x, (name, x) ∈ xs → ¬ d.IsMinusZero x
  /-- Those of the block. -/
  block : ∀ x, ("topology-state-transfer", x) ∈ xs →
    ¬ StateTransfer.IsListed d x ∧ StateTransfer.CountsLook d x

/-- Alike values make the same settings. -/
theorem read?_iff (hd : d.untagged = true) (untagged : ∀ e ∈ xs, e.2.untagged = true)
    (h : Alike d fieldNames xs ys)
    (keys : ∀ x, ("topology-state-transfer", x) ∈ xs → StateTransfer.KeysLook d x)
    (settings : Settings) :
    read? d.fieldReader xs = some settings ∧ TextsLook d xs ↔
      read? Value.fieldReader ys = some settings ∧ CountsLook d xs := by
  rw [read?_eq_some_iff, read?_eq_some_iff]
  have hname := h.text_field "name" (by decide) settings.name
  have hcontainer := h.text_field "cache-container" (by decide) settings.cacheContainer
  have hbinding := h.text_field "socket-binding" (by decide) settings.socketBinding
  have hworkers := h.word32_field "worker-threads" (by decide) settings.workerThreads
  have hidle := h.int64_field "idle-timeout" (by decide) settings.idleTimeout
  have hnodelay := h.flag_field "tcp-nodelay" (by decide) settings.tcpNodelay
  have hsend := h.word32_field "send-buffer-size" (by decide) settings.sendBufferSize
  have hreceive := h.word32_field "receive-buffer-size" (by decide) settings.receiveBufferSize
  have hblock := field_iff (h "topology-state-transfer" (by decide))
    (fun x y o mem look => StateTransfer.block_iff hd (untagged _ mem) look (keys x mem) o)
    settings.stateTransfer
  rw [hname, hcontainer, hbinding, hidle, hnodelay, hworkers, hsend, hreceive]
  constructor
  · rintro ⟨⟨h₁, h₂, h₃, ⟨h₄, q₄⟩, h₅, h₆, ⟨h₇, q₇⟩, ⟨h₈, q₈⟩, h₉⟩, looks⟩
    obtain ⟨f₉, q₉⟩ := hblock.mp ⟨h₉, looks.block⟩
    have texts : ∀ name ∈ textNames, ∀ x, (name, x) ∈ xs → d.LooksTextual x := looks.own
    simp only [textNames, List.forall_mem_cons] at texts
    obtain ⟨p₁, p₂, p₃, _⟩ := texts
    refine ⟨⟨⟨h₁, p₁⟩, ⟨h₂, p₂⟩, ⟨h₃, p₃⟩, h₄, h₅, h₆, h₇, h₈, f₉⟩, ?_, q₉⟩
    simp only [countNames, List.forall_mem_cons]
    exact ⟨q₄, q₇, q₈, fun _ hmem => absurd hmem List.not_mem_nil⟩
  · rintro ⟨⟨⟨h₁, p₁⟩, ⟨h₂, p₂⟩, ⟨h₃, p₃⟩, h₄, h₅, h₆, h₇, h₈, f₉⟩, looks⟩
    obtain ⟨h₉, p₉⟩ := hblock.mpr ⟨f₉, looks.block⟩
    have counts : ∀ name ∈ countNames, ∀ x, (name, x) ∈ xs → ¬ d.IsMinusZero x := looks.own
    simp only [countNames, List.forall_mem_cons] at counts
    obtain ⟨q₄, q₇, q₈, _⟩ := counts
    refine ⟨⟨h₁, h₂, h₃, ⟨h₄, q₄⟩, h₅, h₆, ⟨h₇, q₇⟩, ⟨h₈, q₈⟩, h₉⟩, ?_, p₉⟩
    simp only [textNames, List.forall_mem_cons]
    exact ⟨p₁, p₂, p₃, fun _ hmem => absurd hmem List.not_mem_nil⟩

/-- Settings that a definition accepts have texts that look like texts. -/
theorem textsLook_of_read (hd : d.untagged = true) (untagged : ∀ e ∈ xs, e.2.untagged = true)
    (h : Alike d fieldNames xs ys) {settings : Settings}
    (hread : read? Value.fieldReader ys = some settings) : TextsLook d xs := by
  obtain ⟨hname, hcontainer, hbinding, _, _, _, _, _, hblock⟩ := read?_eq_some_iff.mp hread
  constructor
  · simp only [textNames, List.forall_mem_cons]
    refine ⟨?_, ?_, ?_, fun _ hmem => absurd hmem List.not_mem_nil⟩
    · exact ((h.text_field "name" (by decide) _).mp hname).2
    · exact ((h.text_field "cache-container" (by decide) _).mp hcontainer).2
    · exact ((h.text_field "socket-binding" (by decide) _).mp hbinding).2
  · intro x hx
    obtain ⟨v, hv, look⟩ := exists_related (h "topology-state-transfer" (by decide)) hx
    exact StateTransfer.hostLooks_of_block hd (untagged _ hx) look (exists_of_field hblock hv)

/-- Settings that are read directly have numbers that look like it. -/
theorem countsLook_of_read {settings : Settings}
    (hread : read? d.fieldReader xs = some settings) : CountsLook d xs := by
  obtain ⟨_, _, _, hworkers, _, _, hsend, hreceive, hblock⟩ := read?_eq_some_iff.mp hread
  have word32 := bounded_of_le (by decide : UInt32.size ≤ UInt64.size) UInt32.ofNat
  constructor
  · intro name hname x hx
    simp only [countNames, List.mem_cons, List.not_mem_nil, or_false] at hname
    rcases hname with rfl | rfl | rfl
    · exact StateTransfer.not_isMinusZero word32 (exists_of_field hworkers hx)
    · exact StateTransfer.not_isMinusZero word32 (exists_of_field hsend hx)
    · exact StateTransfer.not_isMinusZero word32 (exists_of_field hreceive hx)
  · intro x hx
    exact StateTransfer.countsLook_of_block (exists_of_field hblock hx)

end Settings

end ConnectorLifecycle
