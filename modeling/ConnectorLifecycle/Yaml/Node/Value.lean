import ConnectorLifecycle.Yaml.Node
import ConnectorLifecycle.Yaml.Scalar.Meaning

/-!
# Nodes as values

Where nobody says which settings are expected, a node becomes a value of open shape. Plain scalars
are taken for what their spelling means, other scalars for texts; one of the usual tags says itself
what a scalar is, and a tag of one's own is refused, or passed over if it is no text. Collections
may be nested to a limited depth, and aliases may be followed a limited number of times, as a node
can stand for a tree in which it occurs.
-/

namespace ConnectorLifecycle.Yaml

/-- What a scalar means that no tag explains. -/
def bareValue? (style : Style) (text : String) : Option Value :=
  if style = .plain then Meaning.value? text else some (.text text)

/-- What a scalar means. -/
def scalarValue? (tag : Option Tag) (style : Style) (text : String) : Option Value :=
  match tag with
  | none => bareValue? style text
  | some tag =>
    if tag.isOwn then if tag.isText then none else bareValue? style text
    else if tag = .usual "bool" then (Meaning.flag? text).map .flag
    else if tag = .usual "int" then (Meaning.integerValue? text.toList).join
    else if tag = .usual "float" then if Meaning.isReal text.toList then some .real else none
    else if tag = .usual "null" then if Meaning.isNull text then some .null else none
    else some (.text text)

/-- A collection that has no readable tag of one's own. -/
def mayBeOpen (tag : Option Tag) : Bool := tag.all fun tag => !(tag.isOwn && tag.isText)

namespace Document

/-- Something that may follow a number of aliases, or is refused. -/
abbrev Limited := StateT Nat Option

/-- The greatest depth to which collections may be nested. -/
def depthLimit : Nat := 128

/-- The number of aliases that may be followed while a document is turned into values. -/
def aliasLimit (d : Document) : Nat := 100 * d.size

/-- Refuse a node. -/
def Limited.refuse {α : Type} : Limited α := fun _ => none

/-- Take an answer that may be a refusal. -/
def Limited.ofOption {α : Type} (answer : Option α) : Limited α := fun n =>
  answer.map fun a => (a, n)

/-- The node that a node stands for; each alias counts. -/
def followLimited (d : Document) : Node → Limited Node
  | .alias anchor => fun
    | 0 => none
    | n + 1 => (d.anchor? anchor).map fun node => (node, n)
  | node => pure node

/-- The value of a node inside which collections may be nested to a depth. -/
def value (d : Document) : Nat → Node → Limited Value
  | 0, node => do
    match ← d.followLimited node with
    | .scalar tag style text => .ofOption (scalarValue? tag style text)
    | _ => .refuse
  | depth + 1, node => do
    match ← d.followLimited node with
    | .scalar tag style text => .ofOption (scalarValue? tag style text)
    | .sequence tag items =>
      if mayBeOpen tag then return .list (← items.mapM (d.value depth)) else .refuse
    | .mapping tag entries =>
      if mayBeOpen tag then
        return .record (← entries.mapM fun (k, v) => do
          return (← d.value depth k, ← d.value depth v))
      else .refuse
    | .alias _ => .refuse

/-- The text of a scalar, whatever its tag and style. -/
def textLimited (d : Document) (node : Node) : Limited String := do
  match ← d.followLimited node with
  | .scalar _ _ text => return text
  | _ => .refuse

end Document

end ConnectorLifecycle.Yaml
