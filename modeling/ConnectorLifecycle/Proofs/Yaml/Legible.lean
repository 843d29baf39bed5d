import ConnectorLifecycle.Proofs.Yaml.Looks

/-!
# Which values can be held

Without aliases it shows in a node itself whether it can be held: its collections may not be nested
too deep, and each of its scalars has to mean something.
-/

namespace ConnectorLifecycle.Yaml

mutual

/-- How many collections are nested in a node, the node itself among them. -/
def Node.nesting : Node → Nat
  | .scalar _ _ _ => 0
  | .alias _ => 0
  | .sequence _ items => nestingOfItems items + 1
  | .mapping _ entries => nestingOfEntries entries + 1

/-- The deepest nesting in some nodes. -/
def nestingOfItems : List Node → Nat
  | [] => 0
  | node :: rest => max node.nesting (nestingOfItems rest)

/-- The deepest nesting in some pairs of nodes. -/
def nestingOfEntries : List (Node × Node) → Nat
  | [] => 0
  | (key, value) :: rest => max (max key.nesting value.nesting) (nestingOfEntries rest)

end

mutual

/-- A node contains no alias, and each scalar in it means something. -/
def Node.legible : Node → Bool
  | .scalar tag style text => (scalarValue? tag style text).isSome
  | .alias _ => false
  | .sequence tag items => mayBeOpen tag && legibleItems items
  | .mapping tag entries => mayBeOpen tag && legibleEntries entries

/-- Some nodes contain no alias, and each scalar in them means something. -/
def legibleItems : List Node → Bool
  | [] => true
  | node :: rest => node.legible && legibleItems rest

/-- Some pairs of nodes contain no alias, and each scalar in them means something. -/
def legibleEntries : List (Node × Node) → Bool
  | [] => true
  | (key, value) :: rest => key.legible && value.legible && legibleEntries rest

end

namespace Document

variable {d : Document}

/-- What stands for single nodes stands for nodes in order. -/
theorem heldItems_iff {depth : Nat}
    (h : ∀ node : Node, (∃ v, Held d depth node v 0) ↔
      node.legible = true ∧ node.nesting ≤ depth) (items : List Node) :
    (∃ vs, HeldItems d depth items vs 0) ↔
      legibleItems items = true ∧ nestingOfItems items ≤ depth := by
  induction items with
  | nil => exact ⟨fun _ => ⟨rfl, Nat.zero_le _⟩, fun _ => ⟨[], .nil⟩⟩
  | cons node rest ih =>
    rw [legibleItems, nestingOfItems, Bool.and_eq_true, Nat.max_le]
    constructor
    · rintro ⟨vs, held⟩
      generalize hcount : (0 : Nat) = count at held
      cases held with
      | @cons _ i j _ v _ vs first others =>
        obtain ⟨rfl, rfl⟩ : i = 0 ∧ j = 0 := by omega
        obtain ⟨legible, nested⟩ := (h node).mp ⟨v, first⟩
        obtain ⟨legible', nested'⟩ := ih.mp ⟨vs, others⟩
        exact ⟨⟨legible, legible'⟩, nested, nested'⟩
    · rintro ⟨⟨legible, legible'⟩, nested, nested'⟩
      obtain ⟨v, first⟩ := (h node).mpr ⟨legible, nested⟩
      obtain ⟨vs, others⟩ := ih.mpr ⟨legible', nested'⟩
      exact ⟨v :: vs, .cons first others⟩

/-- The same for pairs of nodes. -/
theorem heldEntries_iff {depth : Nat}
    (h : ∀ node : Node, (∃ v, Held d depth node v 0) ↔
      node.legible = true ∧ node.nesting ≤ depth) (entries : List (Node × Node)) :
    (∃ vs, HeldEntries d depth entries vs 0) ↔
      legibleEntries entries = true ∧ nestingOfEntries entries ≤ depth := by
  induction entries with
  | nil => exact ⟨fun _ => ⟨rfl, Nat.zero_le _⟩, fun _ => ⟨[], .nil⟩⟩
  | cons e rest ih =>
    obtain ⟨key, value⟩ := e
    rw [legibleEntries, nestingOfEntries, Bool.and_eq_true, Bool.and_eq_true, Nat.max_le,
      Nat.max_le]
    constructor
    · rintro ⟨vs, held⟩
      generalize hcount : (0 : Nat) = count at held
      cases held with
      | @cons _ i j k _ _ u v _ vs named first others =>
        obtain ⟨rfl, rfl, rfl⟩ : i = 0 ∧ j = 0 ∧ k = 0 := by omega
        obtain ⟨legible, nested⟩ := (h key).mp ⟨u, named⟩
        obtain ⟨legible', nested'⟩ := (h value).mp ⟨v, first⟩
        obtain ⟨legible'', nested''⟩ := ih.mp ⟨vs, others⟩
        exact ⟨⟨⟨legible, legible'⟩, legible''⟩, ⟨nested, nested'⟩, nested''⟩
    · rintro ⟨⟨⟨legible, legible'⟩, legible''⟩, ⟨nested, nested'⟩, nested''⟩
      obtain ⟨u, named⟩ := (h key).mpr ⟨legible, nested⟩
      obtain ⟨v, first⟩ := (h value).mpr ⟨legible', nested'⟩
      obtain ⟨vs, others⟩ := ih.mpr ⟨legible'', nested''⟩
      exact ⟨(u, v) :: vs, .cons named first others⟩

/-- A node that is held without following aliases is none, and bears what it is held as. -/
theorem held_zero_iff {depth : Nat} {node : Node} {v : Value} :
    Held d depth node v 0 ↔ hops node = 0 ∧ Bears d depth node v 0 := by
  rw [held_iff]
  constructor
  · rintro ⟨target, i, stands, bears, hcount⟩
    obtain ⟨direct, rfl⟩ : hops node = 0 ∧ i = 0 := by omega
    cases node with
    | scalar | sequence | mapping =>
      cases stands
      exact ⟨rfl, bears⟩
    | _ => cases direct
  · rintro ⟨direct, bears⟩
    cases node with
    | scalar | sequence | mapping => exact ⟨_, 0, rfl, bears, rfl⟩
    | _ => cases direct

/-- A node is held without following aliases if it is legible and not nested too deep. -/
theorem held_iff_legible {depth : Nat} (node : Node) :
    (∃ v, Held d depth node v 0) ↔ node.legible = true ∧ node.nesting ≤ depth := by
  simp only [held_zero_iff]
  induction depth generalizing node with
  | zero =>
    cases node with
    | scalar tag style text =>
      simp [Bears, hops, Node.legible, Node.nesting, Option.isSome_iff_exists]
    | _ => simp [Bears, hops, Node.legible, Node.nesting]
  | succ depth ih =>
    simp only [← held_zero_iff] at ih
    cases node with
    | scalar tag style text =>
      simp [Bears, hops, Node.legible, Node.nesting, Option.isSome_iff_exists]
    | sequence tag items =>
      have each := heldItems_iff ih items
      rw [Node.legible, Node.nesting, Bool.and_eq_true, Nat.succ_le_succ_iff, and_assoc, ← each]
      constructor
      · rintro ⟨_, _, opens, vs, _, held⟩
        exact ⟨opens, vs, held⟩
      · rintro ⟨opens, vs, held⟩
        exact ⟨_, rfl, opens, vs, rfl, held⟩
    | mapping tag entries =>
      have each := heldEntries_iff ih entries
      rw [Node.legible, Node.nesting, Bool.and_eq_true, Nat.succ_le_succ_iff, and_assoc, ← each]
      constructor
      · rintro ⟨_, _, opens, vs, _, held⟩
        exact ⟨opens, vs, held⟩
      · rintro ⟨opens, vs, held⟩
        exact ⟨_, rfl, opens, vs, rfl, held⟩
    | _ => simp [hops, Node.legible]

/-- A pair of a definition can be gathered without following aliases: its key is a scalar, and its
value is one as well if it is the kind, and else it can be held. -/
def CanGather (e : Node × Node) : Prop :=
  ∃ tag style name, e.1 = .scalar tag style name ∧
    if name = "kind" then ∃ tag style kind, e.2 = .scalar tag style kind
    else e.2.legible = true ∧ e.2.nesting < depthLimit

/-- A document that is a mapping of such pairs opens its values. -/
theorem opens_of_canGather {tag : Option Tag} {entries : List (Node × Node)}
    (root : d.root = some (.mapping tag entries)) (each : ∀ e ∈ entries, CanGather e) :
    d.Opens := by
  have gathered : ∃ kinds others, Gathered d entries kinds others 0 := by
    clear root
    induction entries with
    | nil => exact ⟨[], [], .nil⟩
    | cons e rest ih =>
      obtain ⟨kinds, others, gathered⟩ := ih fun e he => each e (List.mem_cons_of_mem _ he)
      obtain ⟨tag, style, name, hkey, hvalue⟩ := each e List.mem_cons_self
      obtain ⟨key, value⟩ := e
      cases hkey
      by_cases hname : name = "kind"
      · rw [if_pos hname] at hvalue
        obtain ⟨tag', style', kind, rfl⟩ := hvalue
        have named : d.text? (.scalar tag style name) = some "kind" := congrArg some hname
        exact ⟨kind :: kinds, others, .kind named rfl gathered⟩
      · rw [if_neg hname] at hvalue
        obtain ⟨legible, nested⟩ := hvalue
        have shallow : value.nesting ≤ depthLimit - 1 := Nat.le_pred_of_lt nested
        obtain ⟨v, held⟩ := (held_iff_legible (d := d) value).mpr ⟨legible, shallow⟩
        exact ⟨kinds, (name, v) :: others, .other rfl hname held gathered⟩
  obtain ⟨kinds, others, gathered⟩ := gathered
  exact ⟨tag, entries, kinds, others, 0, root, gathered, Nat.zero_le _⟩

end Document

end ConnectorLifecycle.Yaml
