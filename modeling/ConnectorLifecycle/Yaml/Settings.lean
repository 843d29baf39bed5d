import ConnectorLifecycle.Settings.Reading
import ConnectorLifecycle.Yaml.Node.Reading
import ConnectorLifecycle.Yaml.Node.Value

/-!
# Settings in YAML

There are two ways from a document to settings. Read directly, each setting takes from its node the
kind of value that it needs, so a name may be written as any scalar; tags matter little. In a
definition the document becomes a record of values first, next to the kind of the connector, and a
setting then takes only a value of its own kind, so a name may not look like a number.
-/

namespace ConnectorLifecycle

namespace Yaml.Document

/-- The text of a scalar, whatever its tag and style. -/
def text? (d : Document) (node : Node) : Option String :=
  match d.follow? node with
  | some (.scalar _ _ text) => some text
  | _ => none

/-- Whether a node holds anything, unless its tag says that it does not and its text does. -/
def present? (d : Document) (node : Node) : Option Bool :=
  match d.follow? node with
  | some (.scalar tag .plain text) =>
    match tag with
    | none => some (!(text.isEmpty || Meaning.isNull text))
    | some tag =>
      if tag = .usual "null" then if Meaning.isNull text then some false else none
      else some true
  | some _ => some true
  | none => none

/-- The text of a plain scalar, or of a literal block with a usual tag. -/
def spelling? (d : Document) (kind : String) (node : Node) : Option String :=
  match d.follow? node with
  | some (.scalar tag style text) =>
    match style with
    | .plain => some text
    | .literal => if tag = some (.usual kind) then some text else none
    | _ => none
  | _ => none

/-- The pairs of a mapping by the texts of their keys. -/
def namedEntries? (d : Document) : List (Node × Node) → Option (List (String × Node))
  | [] => some []
  | (key, value) :: rest => do
    let name ← d.text? key
    some ((name, value) :: (← namedEntries? d rest))

/-- The named nodes inside a mapping; an empty plain scalar is a mapping without pairs. -/
def entries? (d : Document) (node : Node) : Option (List (String × Node)) :=
  match d.follow? node with
  | some (.mapping _ entries) => d.namedEntries? entries
  | some (.scalar _ .plain text) => if text.isEmpty then some [] else none
  | _ => none

/-- The named nodes of the whole document. -/
def rootEntries? (d : Document) : Option (List (String × Node)) :=
  match d.root with
  | none => some []
  | some node => d.entries? node

/-- Nodes that are read directly as settings. -/
def fieldReader (d : Document) : FieldReader Node where
  present? := d.present?
  text? := d.text?
  flag? node := (d.spelling? "bool" node).bind Meaning.flag?
  natural? node := (d.spelling? "int" node).bind fun s => Meaning.unsigned? s.toList
  integer? node := (d.spelling? "int" node).bind fun s => Meaning.integer? s.toList
  block? _ := d.entries?

/-- The pairs of a definition: the texts under the key for the kind, and the other values by the
texts of their keys. -/
def definitionEntries (d : Document) :
    List (Node × Node) → Limited (List String × List (String × Value))
  | [] => pure ([], [])
  | (key, node) :: rest => do
    let name ← d.textLimited key
    if name = "kind" then
      let kind ← d.textLimited node
      let (kinds, others) ← definitionEntries d rest
      return (kind :: kinds, others)
    else
      let value ← d.value (depthLimit - 1) node
      let (kinds, others) ← definitionEntries d rest
      return (kinds, (name, value) :: others)

end Yaml.Document

/-- The settings of a document that is read directly. -/
def Settings.ofDocument? (d : Yaml.Document) : Option Settings := do
  Settings.read? d.fieldReader (← d.rootEntries?)

/-- The state transfer block of a document that is read directly. -/
def StateTransfer.ofDocument? (d : Yaml.Document) : Option StateTransfer := do
  StateTransfer.read? d.fieldReader (← d.rootEntries?)

/-- The definition of a document, which names the kind once. -/
def Definition.ofDocument? (d : Yaml.Document) : Option Definition :=
  match d.root with
  | some (.mapping _ entries) => do
    let ((kinds, others), _) ← d.definitionEntries entries d.aliasLimit
    match kinds with
    | [kind] => some { kind, settings := ← Settings.read? Value.fieldReader others }
    | _ => none
  | _ => none

/-- The settings that a text holds. -/
def Settings.ofYaml? (s : String) : Option Settings := do
  Settings.ofDocument? (← Yaml.Document.ofText? s)

/-- The state transfer block that a text holds. -/
def StateTransfer.ofYaml? (s : String) : Option StateTransfer := do
  StateTransfer.ofDocument? (← Yaml.Document.ofText? s)

/-- The definition that a text holds. -/
def Definition.ofYaml? (s : String) : Option Definition := do
  Definition.ofDocument? (← Yaml.Document.ofText? s)

end ConnectorLifecycle
