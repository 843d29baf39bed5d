import ConnectorLifecycle.Yaml.Settings

/-!
# What nodes are held as

A definition turns its nodes into values of open shape before anybody says which settings are
expected. `Held` says what a node is held as, within which depth and after how many aliases, without
saying how the aliases are counted down; `computes_value` says that this is exactly what reading
comes to. A node is never held inside itself, because every collection costs one level of depth.
-/

namespace ConnectorLifecycle.Yaml.Document

/-- The aliases that a node itself is: one or none. -/
def hops : Node → Nat
  | .alias _ => 1
  | _ => 0

mutual

/-- A node is held as a value within a depth, following a number of aliases. -/
inductive Held (d : Document) : Nat → Node → Value → Nat → Prop
  /-- A scalar is held as what it means. -/
  | scalar {depth : Nat} {node : Node} {tag : Option Tag} {style : Style} {text : String}
      {v : Value} (stands : d.follow? node = some (.scalar tag style text))
      (means : scalarValue? tag style text = some v) : Held d depth node v (hops node)
  /-- A sequence is held as the list of what its items are held as, one level deeper. -/
  | list {depth count : Nat} {node : Node} {tag : Option Tag} {items : List Node}
      {vs : List Value} (stands : d.follow? node = some (.sequence tag items))
      (opens : mayBeOpen tag = true) (each : HeldItems d depth items vs count) :
      Held d (depth + 1) node (.list vs) (hops node + count)
  /-- A mapping is held as the record of what its keys and values are held as, one level deeper. -/
  | record {depth count : Nat} {node : Node} {tag : Option Tag} {entries : List (Node × Node)}
      {vs : List (Value × Value)} (stands : d.follow? node = some (.mapping tag entries))
      (opens : mayBeOpen tag = true) (each : HeldEntries d depth entries vs count) :
      Held d (depth + 1) node (.record vs) (hops node + count)

/-- Nodes are held one after the other. -/
inductive HeldItems (d : Document) : Nat → List Node → List Value → Nat → Prop
  /-- No nodes. -/
  | nil {depth : Nat} : HeldItems d depth [] [] 0
  /-- One more node in front. -/
  | cons {depth i j : Nat} {node : Node} {v : Value} {rest : List Node} {vs : List Value}
      (first : Held d depth node v i) (others : HeldItems d depth rest vs j) :
      HeldItems d depth (node :: rest) (v :: vs) (i + j)

/-- Pairs of nodes are held one after the other, each key before its value. -/
inductive HeldEntries (d : Document) :
    Nat → List (Node × Node) → List (Value × Value) → Nat → Prop
  /-- No pairs. -/
  | nil {depth : Nat} : HeldEntries d depth [] [] 0
  /-- One more pair in front. -/
  | cons {depth i j k : Nat} {key node : Node} {u v : Value} {rest : List (Node × Node)}
      {vs : List (Value × Value)} (named : Held d depth key u i) (first : Held d depth node v j)
      (others : HeldEntries d depth rest vs k) :
      HeldEntries d depth ((key, node) :: rest) ((u, v) :: vs) (i + j + k)

end

namespace Limited

variable {α β : Type}

/-- An action comes to the answers of a relation, and takes from what is left what it says. -/
def Computes (x : Limited α) (R : α → Nat → Prop) : Prop :=
  ∀ n a m, x n = some (a, m) ↔ ∃ j, R a j ∧ n = m + j

variable {x : Limited α} {R : α → Nat → Prop}

theorem Computes.congr {S : α → Nat → Prop} (hx : x.Computes R) (h : ∀ a j, R a j ↔ S a j) :
    x.Computes S := by
  intro n a m
  rw [hx n a m]
  simp only [h]

theorem computes_pure (a : α) : (pure a : Limited α).Computes fun b j => b = a ∧ j = 0 := by
  intro n b m
  change some (a, n) = some (b, m) ↔ _
  constructor
  · intro h
    cases h
    exact ⟨0, ⟨rfl, rfl⟩, rfl⟩
  · rintro ⟨j, ⟨rfl, rfl⟩, rfl⟩
    rfl

theorem computes_refuse : (refuse : Limited α).Computes fun _ _ => False := by
  intro n a m
  constructor
  · intro h
    cases h
  · rintro ⟨j, h, _⟩
    exact h.elim

theorem computes_ofOption (answer : Option α) :
    (ofOption answer).Computes fun a j => answer = some a ∧ j = 0 := by
  cases answer with
  | none => exact computes_refuse.congr fun a j => by simp
  | some b => exact (computes_pure b).congr fun a j => by simp [eq_comm]

theorem Computes.bind {f : α → Limited β} {S : α → β → Nat → Prop} (hx : x.Computes R)
    (hf : ∀ a, (f a).Computes (S a)) :
    (x >>= f).Computes fun b j => ∃ a i k, R a i ∧ S a b k ∧ j = i + k := by
  intro n b m
  have hbind : (x >>= f) n = (x n).bind fun p => f p.1 p.2 := rfl
  rw [hbind, Option.bind_eq_some_iff]
  constructor
  · rintro ⟨⟨a, l⟩, hxa, hfb⟩
    obtain ⟨i, hi, rfl⟩ := (hx n a l).mp hxa
    obtain ⟨k, hk, rfl⟩ := (hf a l b m).mp hfb
    exact ⟨i + k, ⟨a, i, k, hi, hk, rfl⟩, by omega⟩
  · rintro ⟨j, ⟨a, i, k, hi, hk, rfl⟩, rfl⟩
    exact ⟨(a, m + k), (hx _ _ _).mpr ⟨i, hi, by omega⟩, (hf a _ _ _).mpr ⟨k, hk, rfl⟩⟩

theorem computes_ite {y : Limited α} {S : α → Nat → Prop} (p : Prop) [Decidable p]
    (hx : x.Computes R) (hy : y.Computes S) :
    (if p then x else y).Computes fun a j => p ∧ R a j ∨ ¬ p ∧ S a j := by
  by_cases hp : p
  · rw [if_pos hp]
    exact hx.congr fun a j => by simp [hp]
  · rw [if_neg hp]
    exact hy.congr fun a j => by simp [hp]

end Limited

open Limited

variable {d : Document}

/-- Following an alias takes one from what is left. -/
theorem computes_follow_alias (d : Document) (anchor : Nat) :
    (d.followLimited (.alias anchor)).Computes fun target j =>
      d.anchor? anchor = some target ∧ j = 1 := by
  intro n target m
  cases n with
  | zero =>
    constructor
    · intro h
      cases h
    · rintro ⟨j, ⟨_, rfl⟩, h⟩
      simp at h
  | succ n =>
    change (d.anchor? anchor).map (fun node => (node, n)) = some (target, m) ↔ _
    rw [Option.map_eq_some_iff]
    constructor
    · rintro ⟨node, hnode, heq⟩
      cases heq
      exact ⟨1, ⟨hnode, rfl⟩, rfl⟩
    · rintro ⟨j, ⟨hnode, rfl⟩, hn⟩
      cases Nat.succ.inj hn
      exact ⟨target, hnode, rfl⟩

/-- Only an alias has to be followed. -/
theorem computes_followLimited (d : Document) (node : Node) :
    (d.followLimited node).Computes fun target j =>
      d.follow? node = some target ∧ j = hops node := by
  cases node with
  | scalar | sequence | mapping =>
    exact (computes_pure _).congr fun a j => by simp [follow?, hops, eq_comm]
  | _ => exact computes_follow_alias d _

/-- What stands for the answers of single nodes stands for those of nodes in order. -/
theorem computes_items {depth : Nat} (h : ∀ node, (d.value depth node).Computes (Held d depth node))
    (items : List Node) :
    Computes (items.mapM (d.value depth)) (HeldItems d depth items) := by
  induction items with
  | nil =>
    rw [List.mapM_nil]
    refine (computes_pure _).congr fun vs j => ?_
    constructor
    · rintro ⟨rfl, rfl⟩
      exact .nil
    · intro held
      cases held
      exact ⟨rfl, rfl⟩
  | cons node rest ih =>
    rw [List.mapM_cons]
    refine ((h node).bind fun v => ih.bind fun vs => computes_pure (v :: vs)).congr fun vs j => ?_
    constructor
    · rintro ⟨v, i, k, first, ⟨vs, k, l, others, ⟨rfl, rfl⟩, rfl⟩, rfl⟩
      exact .cons first others
    · intro held
      cases held with
      | cons first others => exact ⟨_, _, _, first, ⟨_, _, 0, others, ⟨rfl, rfl⟩, rfl⟩, rfl⟩

/-- The same for pairs of nodes. -/
theorem computes_entries {depth : Nat}
    (h : ∀ node, (d.value depth node).Computes (Held d depth node))
    (entries : List (Node × Node)) :
    Computes
      (entries.mapM fun (k, v) => do return (← d.value depth k, ← d.value depth v))
      (HeldEntries d depth entries) := by
  induction entries with
  | nil =>
    rw [List.mapM_nil]
    refine (computes_pure _).congr fun vs j => ?_
    constructor
    · rintro ⟨rfl, rfl⟩
      exact .nil
    · intro held
      cases held
      exact ⟨rfl, rfl⟩
  | cons e rest ih =>
    obtain ⟨key, node⟩ := e
    rw [List.mapM_cons]
    have pair := (h key).bind fun u => (h node).bind fun v => computes_pure (u, v)
    refine (pair.bind fun p => ih.bind fun vs => computes_pure (p :: vs)).congr fun vs j => ?_
    constructor
    · rintro ⟨p, _, _, ⟨u, i, _, named, ⟨v, j, _, first, ⟨rfl, rfl⟩, rfl⟩, rfl⟩,
        ⟨vs, k, _, others, ⟨rfl, rfl⟩, rfl⟩, rfl⟩
      exact .cons named first others
    · intro held
      cases held with
      | cons named first others =>
        exact ⟨_, _, _, ⟨_, _, _, named, ⟨_, _, 0, first, ⟨rfl, rfl⟩, rfl⟩, rfl⟩,
          ⟨_, _, 0, others, ⟨rfl, rfl⟩, rfl⟩, rfl⟩

/-- What a node that is no alias is held as. -/
def Bears (d : Document) : Nat → Node → Value → Nat → Prop
  | _, .scalar tag style text, v, count => scalarValue? tag style text = some v ∧ count = 0
  | depth + 1, .sequence tag items, v, count =>
    mayBeOpen tag = true ∧ ∃ vs, v = .list vs ∧ HeldItems d depth items vs count
  | depth + 1, .mapping tag entries, v, count =>
    mayBeOpen tag = true ∧ ∃ vs, v = .record vs ∧ HeldEntries d depth entries vs count
  | _, _, _, _ => False

/-- A node is held as what the node that it stands for bears. -/
theorem held_iff {depth count : Nat} {node : Node} {v : Value} :
    Held d depth node v count ↔
      ∃ target i, d.follow? node = some target ∧ Bears d depth target v i ∧
        count = hops node + i := by
  constructor
  · intro h
    cases h with
    | scalar stands means => exact ⟨_, 0, stands, by simpa [Bears] using means, rfl⟩
    | list stands opens each => exact ⟨_, _, stands, ⟨opens, _, rfl, each⟩, rfl⟩
    | record stands opens each => exact ⟨_, _, stands, ⟨opens, _, rfl, each⟩, rfl⟩
  · rintro ⟨target, i, stands, bears, rfl⟩
    cases target with
    | scalar tag style text =>
      have means : scalarValue? tag style text = some v ∧ i = 0 := by simpa [Bears] using bears
      obtain ⟨means, rfl⟩ := means
      exact .scalar stands means
    | sequence tag items =>
      cases depth with
      | zero => exact bears.elim
      | succ depth =>
        obtain ⟨opens, vs, rfl, each⟩ := bears
        exact .list stands opens each
    | mapping tag entries =>
      cases depth with
      | zero => exact bears.elim
      | succ depth =>
        obtain ⟨opens, vs, rfl, each⟩ := bears
        exact .record stands opens each
    | _ => cases depth <;> exact bears.elim

/-- A collection with a tag that nobody reads is refused, and else bears what its parts make. -/
theorem computes_open {α : Type} {tag : Option Tag} {x : Limited α} {R : α → Nat → Prop}
    (hx : x.Computes R) (make : α → Value) :
    Computes (if mayBeOpen tag then return make (← x) else refuse)
      fun v count => mayBeOpen tag = true ∧ ∃ a, v = make a ∧ R a count := by
  cases mayBeOpen tag with
  | false => exact computes_refuse.congr fun v count => by simp
  | true =>
    refine (hx.bind fun a => computes_pure (make a)).congr fun v count => ?_
    constructor
    · rintro ⟨a, i, k, ha, ⟨rfl, rfl⟩, rfl⟩
      exact ⟨rfl, a, rfl, ha⟩
    · rintro ⟨_, a, rfl, ha⟩
      exact ⟨a, count, 0, ha, ⟨rfl, rfl⟩, rfl⟩

/-- What the nodes that can be stood for bear, a node is held as. -/
theorem computes_following {depth : Nat} {f : Node → Limited Value}
    (h : ∀ target, (f target).Computes (Bears d depth target)) (node : Node) :
    (d.followLimited node >>= f).Computes (Held d depth node) := by
  refine ((computes_followLimited d node).bind h).congr fun v count => ?_
  rw [held_iff]
  constructor
  · rintro ⟨target, _, i, ⟨stands, rfl⟩, bears, rfl⟩
    exact ⟨target, i, stands, bears, rfl⟩
  · rintro ⟨target, i, stands, bears, rfl⟩
    exact ⟨target, _, i, ⟨stands, rfl⟩, bears, rfl⟩

/-- The value of a node is what it is held as. -/
theorem computes_value (d : Document) (depth : Nat) (node : Node) :
    (d.value depth node).Computes (Held d depth node) := by
  induction depth generalizing node with
  | zero =>
    rw [value]
    refine computes_following (fun target => ?_) node
    cases target with
    | scalar tag style text => exact computes_ofOption _
    | _ => exact computes_refuse
  | succ depth ih =>
    rw [value]
    refine computes_following (fun target => ?_) node
    cases target with
    | scalar tag style text => exact computes_ofOption _
    | sequence tag items => exact computes_open (computes_items ih items) .list
    | mapping tag entries => exact computes_open (computes_entries ih entries) .record
    | _ => exact computes_refuse

/-- The text of a scalar is found whatever its tag and style. -/
theorem computes_textLimited (d : Document) (node : Node) :
    (d.textLimited node).Computes fun text j => d.text? node = some text ∧ j = hops node := by
  rw [Document.textLimited]
  refine ((computes_followLimited d node).bind
    (S := fun target text j => (∃ tag style, target = .scalar tag style text) ∧ j = 0)
    fun target => ?_).congr fun t j => ?_
  · cases target with
    | scalar tag style s => exact (computes_pure s).congr fun t j => by simp [eq_comm]
    | _ => exact computes_refuse.congr fun t j => by simp
  have stands : d.text? node = some t ↔
      ∃ tag style, d.follow? node = some (.scalar tag style t) := by
    rw [Document.text?]
    cases d.follow? node with
    | none => simp
    | some target => cases target <;> simp
  rw [stands]
  constructor
  · rintro ⟨_, _, _, ⟨h, rfl⟩, ⟨⟨tag, style, rfl⟩, rfl⟩, rfl⟩
    exact ⟨⟨tag, style, h⟩, rfl⟩
  · rintro ⟨⟨tag, style, h⟩, rfl⟩
    exact ⟨_, _, 0, ⟨h, rfl⟩, ⟨⟨tag, style, rfl⟩, rfl⟩, rfl⟩

/-- The pairs of a definition, taken together: the texts under the key for the kind, what the other
values are held as, and how many aliases that takes. -/
inductive Gathered (d : Document) :
    List (Node × Node) → List String → List (String × Value) → Nat → Prop
  /-- No pairs. -/
  | nil : Gathered d [] [] [] 0
  /-- A kind in front. -/
  | kind {key node : Node} {kind : String} {rest : List (Node × Node)} {kinds : List String}
      {others : List (String × Value)} {count : Nat} (named : d.text? key = some "kind")
      (written : d.text? node = some kind) (gathered : Gathered d rest kinds others count) :
      Gathered d ((key, node) :: rest) (kind :: kinds) others (hops key + (hops node + count))
  /-- Another value in front. -/
  | other {key node : Node} {name : String} {v : Value} {rest : List (Node × Node)}
      {kinds : List String} {others : List (String × Value)} {i count : Nat}
      (named : d.text? key = some name) (differs : name ≠ "kind")
      (held : Held d (depthLimit - 1) node v i) (gathered : Gathered d rest kinds others count) :
      Gathered d ((key, node) :: rest) kinds ((name, v) :: others) (hops key + (i + count))

/-- The pairs of a definition are read as they are gathered. -/
theorem computes_definitionEntries (d : Document) (entries : List (Node × Node)) :
    (d.definitionEntries entries).Computes fun p count => Gathered d entries p.1 p.2 count := by
  induction entries with
  | nil =>
    refine (computes_pure _).congr fun p count => ?_
    constructor
    · rintro ⟨rfl, rfl⟩
      exact .nil
    · obtain ⟨kinds, others⟩ := p
      intro gathered
      cases gathered
      exact ⟨rfl, rfl⟩
  | cons e rest ih =>
    obtain ⟨key, node⟩ := e
    rw [definitionEntries]
    have kind := (computes_textLimited d node).bind fun kind =>
      ih.bind fun p => computes_pure (kind :: p.1, p.2)
    have other := fun name => (computes_value d (depthLimit - 1) node).bind fun v =>
      ih.bind fun p => computes_pure (p.1, (name, v) :: p.2)
    refine ((computes_textLimited d key).bind fun name =>
      computes_ite (name = "kind") kind (other name)).congr fun p count => ?_
    obtain ⟨kinds, others⟩ := p
    constructor
    · rintro ⟨name, _, _, ⟨named, rfl⟩, ⟨rfl, hkind⟩ | ⟨differs, hother⟩, rfl⟩
      · obtain ⟨kind, _, _, ⟨written, rfl⟩, ⟨p, _, _, gathered, ⟨heq, rfl⟩, rfl⟩, rfl⟩ := hkind
        cases heq
        exact .kind named written gathered
      · obtain ⟨v, i, _, held, ⟨p, _, _, gathered, ⟨heq, rfl⟩, rfl⟩, rfl⟩ := hother
        cases heq
        exact .other named differs held gathered
    · intro gathered
      cases gathered with
      | kind named written gathered =>
        exact ⟨_, _, _, ⟨named, rfl⟩, .inl ⟨rfl, _, _, _, ⟨written, rfl⟩,
          ⟨(_, _), _, 0, gathered, ⟨rfl, rfl⟩, rfl⟩, rfl⟩, rfl⟩
      | other named differs held gathered =>
        exact ⟨_, _, _, ⟨named, rfl⟩, .inr ⟨differs, _, _, _, held,
          ⟨(_, _), _, 0, gathered, ⟨rfl, rfl⟩, rfl⟩, rfl⟩, rfl⟩

/-- A node is a part of what another one stands for. -/
inductive Part (d : Document) : Node → Node → Prop
  /-- An item of a sequence. -/
  | item {node item : Node} {tag : Option Tag} {items : List Node}
      (stands : d.follow? node = some (.sequence tag items)) (mem : item ∈ items) :
      Part d node item
  /-- A key of a mapping. -/
  | key {node key value : Node} {tag : Option Tag} {entries : List (Node × Node)}
      (stands : d.follow? node = some (.mapping tag entries)) (mem : (key, value) ∈ entries) :
      Part d node key
  /-- A value of a mapping. -/
  | value {node key value : Node} {tag : Option Tag} {entries : List (Node × Node)}
      (stands : d.follow? node = some (.mapping tag entries)) (mem : (key, value) ∈ entries) :
      Part d node value
  /-- A part of a part. -/
  | trans {node inner innermost : Node} (outer : Part d node inner)
      (deeper : Part d inner innermost) : Part d node innermost

/-- Nodes that stand for the same have the same parts. -/
theorem Part.of_same {node other part : Node} (h : Part d node part)
    (same : d.follow? node = d.follow? other) : Part d other part := by
  induction h with
  | item stands mem => exact .item (same ▸ stands) mem
  | key stands mem => exact .key (same ▸ stands) mem
  | value stands mem => exact .value (same ▸ stands) mem
  | trans _ deeper ih _ => exact .trans (ih same) deeper

theorem HeldItems.of_mem {depth count : Nat} {items : List Node} {vs : List Value} {item : Node}
    (h : HeldItems d depth items vs count) (mem : item ∈ items) :
    ∃ v i, Held d depth item v i := by
  induction items generalizing vs count with
  | nil => cases mem
  | cons node rest ih =>
    cases h with
    | cons first others =>
      rcases List.mem_cons.mp mem with rfl | mem
      · exact ⟨_, _, first⟩
      · exact ih others mem

theorem HeldEntries.of_mem {depth count : Nat} {entries : List (Node × Node)}
    {vs : List (Value × Value)} {key value : Node} (h : HeldEntries d depth entries vs count)
    (mem : (key, value) ∈ entries) :
    (∃ v i, Held d depth key v i) ∧ ∃ v i, Held d depth value v i := by
  induction entries generalizing vs count with
  | nil => cases mem
  | cons e rest ih =>
    cases h with
    | cons named first others =>
      rcases List.mem_cons.mp mem with heq | mem
      · cases heq
        exact ⟨⟨_, _, named⟩, ⟨_, _, first⟩⟩
      · exact ih others mem

/-- A node that stands for a sequence is held as its items are, one level higher. -/
theorem Held.items {depth count : Nat} {node : Node} {v : Value} {tag : Option Tag}
    {items : List Node} (h : Held d depth node v count)
    (stands : d.follow? node = some (.sequence tag items)) :
    ∃ inner vs i, depth = inner + 1 ∧ HeldItems d inner items vs i := by
  cases h with
  | scalar stands' => cases stands.symm.trans stands'
  | list stands' _ each =>
    cases stands.symm.trans stands'
    exact ⟨_, _, _, rfl, each⟩
  | record stands' => cases stands.symm.trans stands'

/-- A node that stands for a mapping is held as its pairs are, one level higher. -/
theorem Held.entries {depth count : Nat} {node : Node} {v : Value} {tag : Option Tag}
    {entries : List (Node × Node)} (h : Held d depth node v count)
    (stands : d.follow? node = some (.mapping tag entries)) :
    ∃ inner vs i, depth = inner + 1 ∧ HeldEntries d inner entries vs i := by
  cases h with
  | scalar stands' => cases stands.symm.trans stands'
  | list stands' => cases stands.symm.trans stands'
  | record stands' _ each =>
    cases stands.symm.trans stands'
    exact ⟨_, _, _, rfl, each⟩

/-- The parts of a node that is held are held at smaller depths. -/
theorem Held.part {depth count : Nat} {node part : Node} {v : Value}
    (h : Held d depth node v count) (hpart : Part d node part) :
    ∃ smaller w i, smaller < depth ∧ Held d smaller part w i := by
  induction hpart generalizing depth v count with
  | item stands mem =>
    obtain ⟨inner, _, _, rfl, each⟩ := h.items stands
    obtain ⟨w, i, held⟩ := each.of_mem mem
    exact ⟨inner, w, i, Nat.lt_succ_self _, held⟩
  | key stands mem =>
    obtain ⟨inner, _, _, rfl, each⟩ := h.entries stands
    obtain ⟨⟨w, i, held⟩, _⟩ := each.of_mem mem
    exact ⟨inner, w, i, Nat.lt_succ_self _, held⟩
  | value stands mem =>
    obtain ⟨inner, _, _, rfl, each⟩ := h.entries stands
    obtain ⟨_, w, i, held⟩ := each.of_mem mem
    exact ⟨inner, w, i, Nat.lt_succ_self _, held⟩
  | trans _ _ outer deeper =>
    obtain ⟨_, _, _, hlt, held⟩ := outer h
    obtain ⟨smaller, w, i, hlt', held'⟩ := deeper held
    exact ⟨smaller, w, i, Nat.lt_trans hlt' hlt, held'⟩

/-- A node that contains itself is not held at any depth. -/
theorem Held.not_part_self {depth count : Nat} {node : Node} {v : Value}
    (h : Held d depth node v count) : ¬ Part d node node := by
  intro circular
  induction depth using Nat.strongRecOn generalizing v count with
  | ind depth ih =>
    obtain ⟨smaller, w, i, hlt, held⟩ := h.part circular
    exact ih smaller hlt held

/-- What is held in one document is held in another where the same nodes stand for the same. -/
theorem Held.transfer {d' : Document} {P : Node → Prop}
    (parts : ∀ {node part}, P node → Part d node part → P part)
    (same : ∀ {depth node v count}, P node → Held d depth node v count →
      d'.follow? node = d.follow? node)
    {depth count : Nat} {node : Node} {v : Value} (h : Held d depth node v count) (hp : P node) :
    Held d' depth node v count := by
  induction depth generalizing node v count with
  | zero =>
    have followed := same hp h
    cases h with
    | scalar stands means => exact .scalar (followed.trans stands) means
  | succ depth ih =>
    have items : ∀ {items vs count}, HeldItems d depth items vs count → (∀ x ∈ items, P x) →
        HeldItems d' depth items vs count := by
      intro items
      induction items with
      | nil =>
        intro vs count each _
        cases each
        exact .nil
      | cons node rest ih' =>
        intro vs count each all
        cases each with
        | cons first others =>
          exact .cons (ih first (all _ List.mem_cons_self))
            (ih' others fun x hx => all x (List.mem_cons_of_mem _ hx))
    have entries : ∀ {entries vs count}, HeldEntries d depth entries vs count →
        (∀ e ∈ entries, P e.1 ∧ P e.2) → HeldEntries d' depth entries vs count := by
      intro entries
      induction entries with
      | nil =>
        intro vs count each _
        cases each
        exact .nil
      | cons e rest ih' =>
        intro vs count each all
        cases each with
        | cons named first others =>
          obtain ⟨hkey, hvalue⟩ := all _ List.mem_cons_self
          exact .cons (ih named hkey) (ih first hvalue)
            (ih' others fun x hx => all x (List.mem_cons_of_mem _ hx))
    have followed := same hp h
    cases h with
    | scalar stands means => exact .scalar (followed.trans stands) means
    | list stands opens each =>
      exact .list (followed.trans stands) opens
        (items each fun x hx => parts hp (.item stands hx))
    | record stands opens each =>
      exact .record (followed.trans stands) opens
        (entries each fun e he => ⟨parts hp (.key stands he), parts hp (.value stands he)⟩)

/-- The values of a document can all be held, and the aliases that takes are not too many. -/
def Opens (d : Document) : Prop :=
  ∃ tag entries kinds others count, d.root = some (.mapping tag entries) ∧
    Gathered d entries kinds others count ∧ count ≤ d.aliasLimit

end ConnectorLifecycle.Yaml.Document

namespace ConnectorLifecycle

open Yaml Document

/-- A definition is read off what the pairs of a mapping are gathered to, one kind among them. -/
theorem Definition.ofDocument?_eq_some_iff {d : Document} {definition : Definition} :
    Definition.ofDocument? d = some definition ↔
      ∃ tag entries others count, d.root = some (.mapping tag entries) ∧
        Gathered d entries [definition.kind] others count ∧ count ≤ d.aliasLimit ∧
        Settings.read? Value.fieldReader others = some definition.settings := by
  have pairs := fun entries others kinds count =>
    computes_definitionEntries d entries d.aliasLimit (kinds, others) count
  constructor
  · intro h
    rw [Definition.ofDocument?] at h
    split at h
    · rename_i tag entries root
      obtain ⟨⟨⟨kinds, others⟩, left⟩, hpairs, h⟩ := Option.bind_eq_some_iff.mp h
      obtain ⟨count, gathered, hlimit⟩ := (pairs entries others kinds left).mp hpairs
      have hcount : count ≤ d.aliasLimit := by omega
      cases kinds with
      | nil => cases h
      | cons kind more =>
        cases more with
        | cons => cases h
        | nil =>
          obtain ⟨settings, read, h⟩ := Option.bind_eq_some_iff.mp h
          cases h
          exact ⟨tag, entries, others, count, root, gathered, hcount, read⟩
    · cases h
  · rintro ⟨tag, entries, others, count, root, gathered, hcount, read⟩
    have hpairs := (pairs entries others [definition.kind] (d.aliasLimit - count)).mpr
      ⟨count, gathered, by omega⟩
    simp [Definition.ofDocument?, root, hpairs, read]

end ConnectorLifecycle
