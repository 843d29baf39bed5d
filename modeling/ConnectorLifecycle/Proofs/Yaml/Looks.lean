import ConnectorLifecycle.Proofs.Fields
import ConnectorLifecycle.Proofs.Yaml.Holding

/-!
# What the look of a scalar decides

Without tags a plain scalar is held as what it looks like, and any other scalar as a text. A reader
that knows which kind of value it needs takes the same scalar by its spelling. The two agree on
truth values and on integers; they differ on texts that look like something else, and on the number
zero with a minus sign where no sign is expected.
-/

namespace ConnectorLifecycle.Yaml

namespace Meaning

/-- The ways in which a plain scalar can be spelled, with what each of them means. -/
inductive Spells (text : String) : Value → Prop
  /-- Nothing, or a word for it. -/
  | null (blank : (text.isEmpty || isNull text) = true) : Spells text .null
  /-- A word for a truth value. -/
  | flag {b : Bool} (filled : (text.isEmpty || isNull text) = false) (word : flag? text = some b) :
      Spells text (.flag b)
  /-- An integer without a minus sign. -/
  | natural {n : Nat} (filled : (text.isEmpty || isNull text) = false) (noWord : flag? text = none)
      (digits : unsigned? text.toList = some n) : Spells text (.natural n)
  /-- An integer with a minus sign. -/
  | negative {n : Nat} (filled : (text.isEmpty || isNull text) = false) (noWord : flag? text = none)
      (noDigits : unsigned? text.toList = none) (digits : negative? text.toList = some n) :
      Spells text (.negative n)
  /-- Something that is no integer, or one that is too large for any setting. -/
  | other {v : Value} (filled : (text.isEmpty || isNull text) = false) (noWord : flag? text = none)
      (large : ∀ n, unsigned? text.toList = some n → UInt64.size ≤ n)
      (small : ∀ n, unsigned? text.toList = none → negative? text.toList = some n →
        Nat.pow 2 63 < n)
      (rest : v = .real ∨ v = .text text) : Spells text v

/-- An integer that is passed over is too large. -/
theorem large_of_integerValue? {cs : List Char} (h : integerValue? cs = none) :
    (∀ n, unsigned? cs = some n → UInt64.size ≤ n) ∧
      ∀ n, unsigned? cs = none → negative? cs = some n → Nat.pow 2 63 < n := by
  rw [integerValue?] at h
  constructor
  · intro n hn
    rw [hn] at h
    by_cases hsmall : n < UInt64.size
    · simp [hsmall] at h
    · exact Nat.le_of_not_lt hsmall
  · intro n hnone hn
    rw [hnone, hn] at h
    by_cases hsmall : n ≤ Nat.pow 2 63
    · simp only [if_pos hsmall] at h
      cases h
    · exact Nat.lt_of_not_le hsmall

/-- An integer that is kept has its sign and its size. -/
theorem integer_of_integerValue? {cs : List Char} {v : Value}
    (h : integerValue? cs = some (some v)) :
    (∃ n, v = .natural n ∧ unsigned? cs = some n) ∨
      ∃ n, v = .negative n ∧ unsigned? cs = none ∧ negative? cs = some n := by
  rw [integerValue?] at h
  cases hn : unsigned? cs with
  | some n =>
    rw [hn] at h
    by_cases hsmall : n < UInt64.size
    · simp only [if_pos hsmall] at h
      cases h
      exact .inl ⟨n, rfl, rfl⟩
    · simp only [if_neg hsmall] at h
      split at h <;> cases h
  | none =>
    rw [hn] at h
    cases hneg : negative? cs with
    | none => simp [hneg] at h
    | some n =>
      rw [hneg] at h
      by_cases hsmall : n ≤ Nat.pow 2 63
      · simp only [if_pos hsmall] at h
        cases h
        exact .inr ⟨n, rfl, rfl, rfl⟩
      · simp only [if_neg hsmall] at h
        split at h <;> cases h

/-- A scalar that means something is spelled in one of these ways. -/
theorem spells_of_value? {text : String} {v : Value} (h : value? text = some v) :
    Spells text v := by
  rw [value?] at h
  cases hblank : text.isEmpty || isNull text with
  | true =>
    rw [hblank] at h
    cases h
    exact .null hblank
  | false =>
    rw [hblank] at h
    cases hflag : flag? text with
    | some b =>
      rw [hflag] at h
      cases h
      exact .flag hblank hflag
    | none =>
      rw [hflag] at h
      cases hint : integerValue? text.toList with
      | some answer =>
        simp only [hint, Bool.false_eq_true, if_false] at h
        subst h
        rcases integer_of_integerValue? hint with ⟨n, rfl, hn⟩ | ⟨n, rfl, hn, hneg⟩
        · exact .natural hblank hflag hn
        · exact .negative hblank hflag hn hneg
      | none =>
        obtain ⟨large, small⟩ := large_of_integerValue? hint
        refine .other hblank hflag large small ?_
        simp only [hint, Bool.false_eq_true, if_false] at h
        split at h
        · cases h
          exact .inl rfl
        · cases h
          exact .inr rfl

/-- A word for a truth value has no digits. -/
theorem digits_of_flag? {text : String} {b : Bool} (h : flag? text = some b) :
    unsigned? text.toList = none ∧ negative? text.toList = none := by
  have word : text ∈ ["true", "True", "TRUE"] ∨ text ∈ ["false", "False", "FALSE"] := by
    rw [flag?] at h
    split at h
    · rename_i hmem
      exact .inl (List.contains_iff_mem.mp hmem)
    · split at h
      · rename_i hmem
        exact .inr (List.contains_iff_mem.mp hmem)
      · cases h
  simp only [List.mem_cons, List.not_mem_nil, or_false] at word
  rcases word with (rfl | rfl | rfl) | (rfl | rfl | rfl) <;> decide

end Meaning

mutual

/-- No tag is written anywhere in a node. -/
def Node.untagged : Node → Bool
  | .scalar tag _ _ => tag.isNone
  | .alias _ => true
  | .sequence tag items => tag.isNone && untaggedItems items
  | .mapping tag entries => tag.isNone && untaggedEntries entries

/-- No tag is written in any of some nodes. -/
def untaggedItems : List Node → Bool
  | [] => true
  | node :: rest => node.untagged && untaggedItems rest

/-- No tag is written in any of some pairs. -/
def untaggedEntries : List (Node × Node) → Bool
  | [] => true
  | (key, value) :: rest => key.untagged && value.untagged && untaggedEntries rest

end

namespace Document

/-- No tag is written anywhere in a document. -/
def untagged (d : Document) : Bool :=
  d.root.all Node.untagged && d.anchors.all fun e => e.2.untagged

variable {d : Document}

/-- The nodes of the anchors of an untagged document are untagged. -/
theorem untagged_anchor? {anchor : Nat} {target : Node} (hd : d.untagged = true)
    (h : d.anchor? anchor = some target) : target.untagged = true := by
  rw [untagged, Bool.and_eq_true, List.all_eq_true] at hd
  rw [anchor?, Option.map_eq_some_iff] at h
  obtain ⟨e, hfind, rfl⟩ := h
  exact hd.2 e (List.mem_of_find?_eq_some hfind)

/-- What an untagged node stands for is untagged. -/
theorem untagged_follow? {node target : Node} (hd : d.untagged = true)
    (hnode : node.untagged = true) (h : d.follow? node = some target) :
    target.untagged = true := by
  cases node with
  | scalar | sequence | mapping =>
    cases h
    exact hnode
  | _ => exact untagged_anchor? hd h

/-- What a node without tags looks like, and what it is held as. -/
inductive Look (d : Document) (node : Node) : Value → Prop
  /-- A plain scalar is held as what it means. -/
  | plain {text : String} {v : Value} (stands : d.follow? node = some (.scalar none .plain text))
      (means : Meaning.value? text = some v) : Look d node v
  /-- Any other scalar is held as its text. -/
  | quoted {style : Style} {text : String} (styled : style ≠ .plain)
      (stands : d.follow? node = some (.scalar none style text)) : Look d node (.text text)
  /-- A sequence is held as a list. -/
  | list {depth count : Nat} {items : List Node} {vs : List Value}
      (stands : d.follow? node = some (.sequence none items))
      (each : HeldItems d depth items vs count) : Look d node (.list vs)
  /-- A mapping is held as a record. -/
  | record {depth count : Nat} {entries : List (Node × Node)} {vs : List (Value × Value)}
      (stands : d.follow? node = some (.mapping none entries))
      (each : HeldEntries d depth entries vs count) : Look d node (.record vs)

/-- A node without tags that is held looks like that. -/
theorem Held.look {depth count : Nat} {node : Node} {v : Value} (hd : d.untagged = true)
    (hnode : node.untagged = true) (h : Held d depth node v count) : Look d node v := by
  cases h with
  | @scalar _ _ tag style text v stands means =>
    have htag := untagged_follow? hd hnode stands
    rw [Node.untagged, Option.isNone_iff_eq_none] at htag
    subst htag
    change bareValue? style text = some v at means
    by_cases hstyle : style = .plain
    · subst hstyle
      exact .plain stands means
    · rw [bareValue?, if_neg hstyle] at means
      cases means
      exact .quoted hstyle stands
  | @list _ _ _ tag _ _ stands _ each =>
    have htag := untagged_follow? hd hnode stands
    rw [Node.untagged, Bool.and_eq_true, Option.isNone_iff_eq_none] at htag
    obtain ⟨rfl, _⟩ := htag
    exact .list stands each
  | @record _ _ _ tag _ _ stands _ each =>
    have htag := untagged_follow? hd hnode stands
    rw [Node.untagged, Bool.and_eq_true, Option.isNone_iff_eq_none] at htag
    obtain ⟨rfl, _⟩ := htag
    exact .record stands each

/-- A plain scalar here would be read as a text or as nothing, not as a truth value or a number. -/
def LooksTextual (d : Document) (node : Node) : Prop :=
  ∀ text v, d.follow? node = some (.scalar none .plain text) → Meaning.value? text = some v →
    v = .null ∨ v = .text text

/-- A plain zero with a minus sign. -/
def IsMinusZero (d : Document) (node : Node) : Prop :=
  ∃ text, d.follow? node = some (.scalar none .plain text) ∧
    Meaning.value? text = some (.negative 0)

/-- A plain scalar here would be read as a text, or as a number that is no place in a block. -/
def LooksLikeKey (d : Document) (node : Node) : Prop :=
  ∀ text v, d.follow? node = some (.scalar none .plain text) → Meaning.value? text = some v →
    v = .text text ∨ ∃ n, StateTransfer.fieldNames.length ≤ n ∧ v = .natural n

namespace Look

variable {node : Node} {v : Value}

/-- Whether anything is there does not depend on who asks. -/
theorem present (h : Look d node v) : d.present? node = some v.isPresent := by
  cases h with
  | plain stands means =>
    rw [present?, stands]
    cases Meaning.spells_of_value? means with
    | null blank => simp [blank, Value.isPresent]
    | flag filled => simp [filled, Value.isPresent]
    | natural filled => simp [filled, Value.isPresent]
    | negative filled => simp [filled, Value.isPresent]
    | other filled _ _ _ rest =>
      rcases rest with rfl | rfl <;> simp [filled, Value.isPresent]
  | @quoted style text styled stands =>
    rw [present?, stands]
    cases style with
    | plain => exact absurd rfl styled
    | _ => rfl
  | list stands => simp [present?, stands, Value.isPresent]
  | record stands => simp [present?, stands, Value.isPresent]

/-- A plain scalar looks textual if it means nothing or its own text. -/
theorem looksTextual_iff {text : String} (stands : d.follow? node = some (.scalar none .plain text))
    (means : Meaning.value? text = some v) : d.LooksTextual node ↔ v = .null ∨ v = .text text := by
  constructor
  · exact fun h => h text v stands means
  · intro h text' v' stands' means'
    cases stands.symm.trans stands'
    cases means.symm.trans means'
    exact h

/-- A plain scalar is a zero with a minus sign if it means that. -/
theorem isMinusZero_iff {text : String} (stands : d.follow? node = some (.scalar none .plain text))
    (means : Meaning.value? text = some v) : d.IsMinusZero node ↔ v = .negative 0 := by
  constructor
  · rintro ⟨text', stands', means'⟩
    cases stands.symm.trans stands'
    exact Option.some.inj (means.symm.trans means')
  · rintro rfl
    exact ⟨text, stands, means⟩

/-- What is no plain scalar looks textual and is no zero. -/
theorem no_plain (h : ∀ text, d.follow? node ≠ some (.scalar none .plain text)) :
    d.LooksTextual node ∧ ¬ d.IsMinusZero node :=
  ⟨fun text _ stands _ => absurd stands (h text), fun ⟨text, stands, _⟩ => h text stands⟩

variable {α : Type}

/-- A node is read if anything is there. -/
theorem optional_node (h : Look d node v) (read : Node → Option α) :
    d.fieldReader.optional read node =
      if v.isPresent then (read node).map some else some none := by
  have hpresent : d.fieldReader.present? node = some v.isPresent := h.present
  rw [FieldReader.optional, hpresent]
  cases v.isPresent <;> rfl

/-- A definition reads the same text, if it looks like one. -/
theorem text_iff (h : Look d node v) {o : Option String} :
    Value.fieldReader.optional Value.text? v = some o ↔
      d.fieldReader.optional d.text? node = some o ∧ d.LooksTextual node := by
  rw [h.optional_node, Value.optional_eq]
  cases h with
  | @plain text _ stands means =>
    have htext : d.text? node = some text := by rw [Document.text?, stands]
    rw [htext, looksTextual_iff stands means]
    cases Meaning.spells_of_value? means with
    | other _ _ _ _ rest => rcases rest with rfl | rfl <;> simp [Value.isPresent, Value.text?]
    | _ => simp [Value.isPresent, Value.text?]
  | @quoted style text styled stands =>
    have htext : d.text? node = some text := by rw [Document.text?, stands]
    have hlooks : d.LooksTextual node := (no_plain (by simp [stands, styled])).1
    simp [htext, hlooks, Value.isPresent, Value.text?]
  | list stands => simp [Document.text?, stands, Value.isPresent, Value.text?]
  | record stands => simp [Document.text?, stands, Value.isPresent, Value.text?]

/-- Only plain scalars without tags are read by their spelling. -/
theorem spelling_plain {text : String} (kind : String)
    (stands : d.follow? node = some (.scalar none .plain text)) :
    d.spelling? kind node = some text := by
  rw [spelling?, stands]

theorem spelling_quoted {style : Style} {text : String} (kind : String) (styled : style ≠ .plain)
    (stands : d.follow? node = some (.scalar none style text)) : d.spelling? kind node = none := by
  rw [spelling?, stands]
  cases style with
  | plain => exact absurd rfl styled
  | _ => rfl

/-- A definition reads the same truth values. -/
theorem flag_eq (h : Look d node v) :
    Value.fieldReader.optional Value.flag? v =
      d.fieldReader.optional d.fieldReader.flag? node := by
  rw [h.optional_node, Value.optional_eq]
  change _ = if v.isPresent then ((d.spelling? "bool" node).bind Meaning.flag?).map some else _
  cases h with
  | plain stands means =>
    rw [spelling_plain "bool" stands, Option.bind_some]
    cases Meaning.spells_of_value? means with
    | null => rfl
    | flag _ word => rw [word]; rfl
    | natural _ noWord => rw [noWord]; rfl
    | negative _ noWord => rw [noWord]; rfl
    | other _ noWord _ _ rest =>
      rw [noWord]
      rcases rest with rfl | rfl <;> rfl
  | quoted styled stands => rw [spelling_quoted "bool" styled stands]; rfl
  | list stands => rw [spelling?, stands]; rfl
  | record stands => rw [spelling?, stands]; rfl

/-- An integer that is passed over as too large does not fit sixty-four bits. -/
theorem int64_of_large {cs : List Char}
    (large : ∀ n, Meaning.unsigned? cs = some n → UInt64.size ≤ n)
    (small : ∀ n, Meaning.unsigned? cs = none → Meaning.negative? cs = some n → Nat.pow 2 63 < n) :
    ((Meaning.integer? cs).bind fun n =>
      if Int64.minValue.toInt ≤ n ∧ n ≤ Int64.maxValue.toInt then some (Int64.ofInt n)
      else none) = none := by
  have hmin : Int64.minValue.toInt = -(Nat.pow 2 63 : Nat) := by decide
  have hmax : Int64.maxValue.toInt < (UInt64.size : Nat) := by decide
  rw [Meaning.integer?]
  cases hn : Meaning.unsigned? cs with
  | some n =>
    have hlarge : (UInt64.size : Int) ≤ n := Int.ofNat_le.mpr (large n hn)
    have hout : ¬ (n : Int) ≤ Int64.maxValue.toInt := by omega
    exact if_neg fun hfits => hout hfits.2
  | none =>
    cases hneg : Meaning.negative? cs with
    | none => rfl
    | some n =>
      have hlarge : ((Nat.pow 2 63 : Nat) : Int) < n := Int.ofNat_lt.mpr (small n hn hneg)
      have hout : ¬ Int64.minValue.toInt ≤ -(n : Int) := by omega
      exact if_neg fun hfits => hout hfits.1

/-- A definition reads the same integers of sixty-four bits. -/
theorem int64_eq (h : Look d node v) :
    Value.fieldReader.optional Value.fieldReader.int64? v =
      d.fieldReader.optional d.fieldReader.int64? node := by
  rw [h.optional_node, Value.optional_eq]
  have hnode : d.fieldReader.integer? node =
    (d.spelling? "int" node).bind fun s => Meaning.integer? s.toList := rfl
  rw [FieldReader.int64?, FieldReader.int64?, hnode]
  cases h with
  | @plain text _ stands means =>
    rw [spelling_plain "int" stands, Option.bind_some]
    cases Meaning.spells_of_value? means with
    | null => rfl
    | flag _ word =>
      obtain ⟨hunsigned, hnegative⟩ := Meaning.digits_of_flag? word
      simp [Meaning.integer?, hunsigned, hnegative, Value.fieldReader, Value.integer?]
    | natural _ _ digits => simp [Meaning.integer?, digits, Value.fieldReader, Value.integer?]
    | negative _ _ noDigits digits =>
      simp [Meaning.integer?, noDigits, digits, Value.fieldReader, Value.integer?]
    | other _ _ large small rest =>
      rw [int64_of_large large small]
      rcases rest with rfl | rfl <;> rfl
  | quoted styled stands => rw [spelling_quoted "int" styled stands]; rfl
  | list stands => rw [spelling?, stands]; rfl
  | record stands => rw [spelling?, stands]; rfl

/-- A definition reads the same numbers without sign, and zero with a minus sign as well. -/
theorem count_iff (h : Look d node v) {f : Nat → Option α}
    (bounded : ∀ n, UInt64.size ≤ n → f n = none) {o : Option α} :
    d.fieldReader.optional (fun x => (d.fieldReader.natural? x).bind f) node = some o ↔
      Value.fieldReader.optional (fun x => (Value.natural? x).bind f) v = some o ∧
        ¬ d.IsMinusZero node := by
  rw [h.optional_node, Value.optional_eq]
  have hnode : d.fieldReader.natural? node =
    (d.spelling? "int" node).bind fun s => Meaning.unsigned? s.toList := rfl
  rw [hnode]
  cases h with
  | @plain text _ stands means =>
    rw [spelling_plain "int" stands, Option.bind_some, isMinusZero_iff stands means]
    cases Meaning.spells_of_value? means with
    | null => simp [Value.isPresent]
    | flag _ word =>
      simp [(Meaning.digits_of_flag? word).1, Value.isPresent, Value.natural?]
    | natural _ _ digits => simp [digits, Value.isPresent, Value.natural?]
    | @negative n _ _ noDigits _ =>
      cases n with
      | zero => simp [noDigits, Value.isPresent]
      | succ n => simp [noDigits, Value.isPresent, Value.natural?]
    | other _ _ large _ rest =>
      have hnone : (Meaning.unsigned? text.toList).bind f = none := by
        cases hn : Meaning.unsigned? text.toList with
        | none => rfl
        | some n => exact bounded n (large n hn)
      rcases rest with rfl | rfl <;> simp [hnone, Value.isPresent, Value.natural?]
  | quoted styled stands =>
    simp [spelling_quoted "int" styled stands, Value.isPresent, Value.natural?]
  | list stands => simp [spelling?, stands, Value.isPresent, Value.natural?]
  | record stands => simp [spelling?, stands, Value.isPresent, Value.natural?]

end Look

end Document

end ConnectorLifecycle.Yaml
