import ConnectorLifecycle.Address.Reading
import ConnectorLifecycle.Failure
import ConnectorLifecycle.Table

/-!
# Socket bindings

A table gives socket addresses to names. It is filled from pairs of texts: the first text that is no
address ends the filling, and of several pairs with one name the last one counts.
-/

namespace ConnectorLifecycle

/-- Addresses by the names of their bindings. -/
abbrev Bindings := Table SocketAddress

namespace Bindings

/-- The address that a binding's text denotes. -/
def address (name text : String) : Except BindingFailure SocketAddress :=
  match SocketAddress.ofText? text with
  | some a => .ok a
  | none => .error (.malformed name text)

/-- Add pairs to a table in order, up to the first that is refused. -/
def insertPairs (bindings : Bindings) : List (String × String) → Except BindingFailure Bindings
  | [] => .ok bindings
  | (name, text) :: rest => do
    let a ← address name text
    insertPairs (bindings.insert name a) rest

/-- The table of a list of pairs. -/
def ofPairs (pairs : List (String × String)) : Except BindingFailure Bindings :=
  insertPairs Table.empty pairs

/-- The address of a binding. -/
def resolve (bindings : Bindings) (name : String) : Except BindingFailure SocketAddress :=
  match bindings.get? name with
  | some a => .ok a
  | none => .error (.undefined name)

end Bindings

end ConnectorLifecycle
