import ConnectorLifecycle.Yaml.Token

/-!
# Nodes and documents

A document is a tree of scalars, sequences and mappings. A node may be an alias, which stands for an
earlier node that was given a name; names are resolved when the whole document is known, so a node
can stand for a tree in which it occurs. `Document.follow?` gives the node that a node stands for.
-/

namespace ConnectorLifecycle.Yaml

/-- A part of a document. -/
inductive Node where
  /-- A scalar with its tag, its style and its text. -/
  | scalar (tag : Option Tag) (style : Style) (text : String)
  /-- Nodes in order. -/
  | sequence (tag : Option Tag) (items : List Node)
  /-- Pairs of nodes, in the order in which they are written. -/
  | mapping (tag : Option Tag) (entries : List (Node × Node))
  /-- The node of an anchor. -/
  | alias (anchor : Nat)
  deriving Inhabited

mutual

/-- The number of scalars, aliases and ends of collections in a node. -/
def Node.size : Node → Nat
  | .scalar _ _ _ => 1
  | .alias _ => 1
  | .sequence _ items => 2 + sizeOfItems items
  | .mapping _ entries => 2 + sizeOfEntries entries

/-- The sizes of nodes together. -/
def sizeOfItems : List Node → Nat
  | [] => 0
  | node :: rest => node.size + sizeOfItems rest

/-- The sizes of the nodes in pairs together. -/
def sizeOfEntries : List (Node × Node) → Nat
  | [] => 0
  | (key, value) :: rest => key.size + value.size + sizeOfEntries rest

end

-- No decidable equality is derived for a type that occurs in lists of itself, so it is written out.
mutual

/-- Two nodes are the same, or not. -/
def Node.decEq : (x y : Node) → Decidable (x = y)
  | .scalar tag style text, .scalar tag' style' text' =>
    decidable_of_iff (tag = tag' ∧ style = style' ∧ text = text') (by simp)
  | .sequence tag items, .sequence tag' items' =>
    match decEqItems items items' with
    | isTrue h => decidable_of_iff (tag = tag') (by simp [h])
    | isFalse h => isFalse (by simp [h])
  | .mapping tag entries, .mapping tag' entries' =>
    match decEqEntries entries entries' with
    | isTrue h => decidable_of_iff (tag = tag') (by simp [h])
    | isFalse h => isFalse (by simp [h])
  | .alias anchor, .alias anchor' => decidable_of_iff (anchor = anchor') (by simp)
  | .scalar .., .sequence .. | .scalar .., .mapping .. | .scalar .., .alias ..
  | .sequence .., .scalar .. | .sequence .., .mapping .. | .sequence .., .alias ..
  | .mapping .., .scalar .. | .mapping .., .sequence .. | .mapping .., .alias ..
  | .alias .., .scalar .. | .alias .., .sequence .. | .alias .., .mapping .. => isFalse nofun

/-- Two lists of nodes are the same, or not. -/
def decEqItems : (xs ys : List Node) → Decidable (xs = ys)
  | [], [] => isTrue rfl
  | [], _ :: _ | _ :: _, [] => isFalse nofun
  | x :: xs, y :: ys =>
    match x.decEq y, decEqItems xs ys with
    | isTrue h, isTrue h' => isTrue (by rw [h, h'])
    | isFalse h, _ => isFalse (by simp [h])
    | _, isFalse h => isFalse (by simp [h])

/-- Two lists of pairs are the same, or not. -/
def decEqEntries : (xs ys : List (Node × Node)) → Decidable (xs = ys)
  | [], [] => isTrue rfl
  | [], _ :: _ | _ :: _, [] => isFalse nofun
  | (key, value) :: xs, (key', value') :: ys =>
    match key.decEq key', value.decEq value', decEqEntries xs ys with
    | isTrue h, isTrue h', isTrue h'' => isTrue (by rw [h, h', h''])
    | isFalse h, _, _ => isFalse (by simp [h])
    | _, isFalse h, _ => isFalse (by simp [h])
    | _, _, isFalse h => isFalse (by simp [h])

end

instance : DecidableEq Node := Node.decEq

/-- The scalar that stands where nothing is written. -/
def Node.blank : Node := .scalar none .plain ""

/-- A whole text. -/
structure Document where
  /-- The node that the document consists of, if the text has a document. -/
  root : Option Node
  /-- The nodes of anchors; of several under one number the first one counts. -/
  anchors : List (Nat × Node) := []
  deriving DecidableEq

namespace Document

/-- The size of a text; one that has no document counts as one. -/
def size (d : Document) : Nat := (d.root.map Node.size).getD 1

/-- The node of an anchor. -/
def anchor? (d : Document) (anchor : Nat) : Option Node :=
  (d.anchors.find? fun e => e.1 = anchor).map Prod.snd

/-- The node that a node stands for. -/
def follow? (d : Document) : Node → Option Node
  | .alias anchor => d.anchor? anchor
  | node => some node

end Document

end ConnectorLifecycle.Yaml
