/-!
# What a collaborator answers

The connector, its factory and the binding resolver belong to somebody else. Each call of one of
them comes back with a value, comes back with an error that the service is expected to handle, or
aborts, and nothing in this library catches that. Errors carry a chain of causes, the
outermost first.
-/

namespace ConnectorLifecycle

/-- How a call ends: with a value, with an error, or by aborting. -/
inductive Outcome (ε α : Type) where
  /-- The call returned a value. -/
  | ok (value : α)
  /-- The call returned an error. -/
  | error (cause : ε)
  /-- The call unwound with a message. -/
  | abort (message : String)
  deriving DecidableEq, Repr

namespace Outcome

variable {ε α β : Type}

/-- Change the value of a call that returned one. -/
def map (f : α → β) : Outcome ε α → Outcome ε β
  | ok a => ok (f a)
  | error e => error e
  | abort m => abort m

/-- The call neither failed nor unwound. -/
def isOk : Outcome ε α → Bool
  | ok _ => true
  | _ => false

/-- The call unwound. -/
def isAbort : Outcome ε α → Bool
  | abort _ => true
  | _ => false

/-- A checked result is a call that does not abort. -/
def ofExcept : Except ε α → Outcome ε α
  | .ok a => ok a
  | .error e => error e

end Outcome

/-- An error's own text with the texts of its causes, the outermost first. -/
structure CauseChain where
  /-- The error's own text. -/
  outermost : String
  /-- The texts of the causes under it, ending with the root. -/
  causes : List String
  deriving DecidableEq, Repr

namespace CauseChain

/-- The chain of a list of texts; no text at all is the one empty text. -/
def ofList : List String → CauseChain
  | [] => ⟨"", []⟩
  | t :: rest => ⟨t, rest⟩

/-- All texts, outermost first. -/
def texts (chain : CauseChain) : List String := chain.outermost :: chain.causes

/-- The texts of a chain make the chain again. -/
@[simp] theorem ofList_texts (chain : CauseChain) : ofList chain.texts = chain := rfl

/-- A list that is not empty keeps all its texts. -/
theorem texts_ofList {texts : List String} (h : texts ≠ []) : (ofList texts).texts = texts := by
  cases texts with
  | nil => exact absurd rfl h
  | cons t rest => rfl

/-- The chain on one line, outermost first. -/
def line (chain : CauseChain) : String := ": ".intercalate chain.texts

end CauseChain

end ConnectorLifecycle
