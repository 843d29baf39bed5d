import ConnectorLifecycle.Bindings
import ConnectorLifecycle.File
import ConnectorLifecycle.Yaml.Settings

/-!
# Loading socket bindings

A file of bindings is a mapping of names to the texts of addresses. Any scalar may be a name or an
address. Of several addresses under one name the last one counts, before any is looked at.
-/

namespace ConnectorLifecycle.Bindings

/-- The texts of addresses by the names of their bindings, each name once. -/
def pairsOfDocument? (d : Yaml.Document) : Option (List (String × String)) := do
  let entries ← d.rootEntries?
  let pairs ← entries.mapM fun (name, node) => do some (name, ← d.text? node)
  some (Table.ofList pairs).entries

/-- The texts of addresses by the names of their bindings that a text holds. -/
def pairsOfYaml? (s : String) : Option (List (String × String)) := do
  pairsOfDocument? (← Yaml.Document.ofText? s)

/-- The table in a file, which may be missing. -/
def load (path : String) (content : Option FileContent) : Except LoadFailure Bindings :=
  match content.bind FileContent.text? with
  | none => .error (.unreadable path)
  | some text =>
    match pairsOfYaml? text with
    | none => .error (.undecodable path)
    | some pairs =>
      match ofPairs pairs with
      | .ok bindings => .ok bindings
      | .error cause => .error (.invalidBinding path cause)

end ConnectorLifecycle.Bindings
