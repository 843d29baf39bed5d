import ConnectorLifecycle.Outcome
import ConnectorLifecycle.Phase

/-!
# Failures

`BindingFailure` says why a named binding has no address, and `Failure` why a service could not be
built, started or asked for its connector. Each has one message, and a failure that another error
brought about keeps that error's whole chain. `Failure.line` is the message followed by the chain.
-/

namespace ConnectorLifecycle

/-- Why a named binding gives no address. -/
inductive BindingFailure where
  /-- No binding has the name. -/
  | undefined (name : String)
  /-- The text under the name is no socket address. -/
  | malformed (name address : String)
  deriving DecidableEq, Repr

/-- The message of a binding failure. -/
def BindingFailure.message : BindingFailure → String
  | undefined name => s!"socket binding '{name}' is not defined"
  | malformed name address => s!"socket binding '{name}' has an invalid address '{address}'"

/-- Why a service was not built, not started, or has no connector to show. -/
inductive Failure where
  /-- The settings name no binding, so there is nothing to listen on. -/
  | noListener (service : String)
  /-- The factory did not build a connector. -/
  | notBuilt (service : String) (cause : CauseChain)
  /-- The connector did not start. -/
  | notStarted (service : String) (cause : CauseChain)
  /-- The started connector did not give its transport. -/
  | noTransport (service : String) (cause : CauseChain)
  /-- The binding that the settings name gives no address. -/
  | unresolved (service : String) (cause : BindingFailure)
  /-- The service was asked for its connector in a phase that has none. -/
  | notRunning (service : String) (phase : Phase)
  /-- No factory is registered for the kind. -/
  | unknownKind (kind : String)
  /-- No cache container has the name. -/
  | unknownContainer (container : String)
  deriving DecidableEq, Repr

namespace Failure

/-- The message of a failure, without its causes. -/
def message : Failure → String
  | noListener s => s!"[{s}] no connector defined: a socket binding is required"
  | notBuilt s _ => s!"[{s}] failed to instantiate connector"
  | notStarted s _ => s!"[{s}] failed to start"
  | noTransport s _ => s!"[{s}] failed to obtain connector transport"
  | unresolved s _ => s!"[{s}] socket binding could not be resolved"
  | notRunning s p => s!"[{s}] connector is not running (state: {p.text})"
  | unknownKind k => s!"no connector registered for kind '{k}'"
  | unknownContainer c => s!"no cache container named '{c}'"

/-- The texts of what brought the failure about, the outermost first. -/
def causes : Failure → List String
  | notBuilt _ c | notStarted _ c | noTransport _ c => c.texts
  | unresolved _ b => [b.message]
  | noListener _ | notRunning _ _ | unknownKind _ | unknownContainer _ => []

/-- The service that the failure is about, if it is about one. -/
def service? : Failure → Option String
  | noListener s | notBuilt s _ | notStarted s _ | noTransport s _ => some s
  | unresolved s _ | notRunning s _ => some s
  | unknownKind _ | unknownContainer _ => none

/-- The message and all causes on one line. -/
def line (f : Failure) : String :=
  f.causes.foldl (fun out cause => out ++ ": " ++ cause) f.message

end Failure

end ConnectorLifecycle
