/-!
# Values of open shape

A `Value` is what a decoder hands over before anybody says which settings are expected in a text:
nothing, a truth value, a number, a text, a list, or a record whose keys are values themselves.
Integers keep whether they were handed over with a minus sign, so that `-0` is told from `0`; of any
other number it only matters that it is no integer.
-/

namespace ConnectorLifecycle

/-- Data of open shape. -/
inductive Value where
  /-- Nothing. -/
  | null
  /-- A truth value. -/
  | flag (b : Bool)
  /-- An integer written without a minus sign. -/
  | natural (n : Nat)
  /-- An integer written with a minus sign in front of its size. -/
  | negative (n : Nat)
  /-- A number that is not written as an integer of the usual size. -/
  | real
  /-- A text. -/
  | text (s : String)
  /-- Values in order. -/
  | list (items : List Value)
  /-- Values under keys, in the order in which they were written. -/
  | record (entries : List (Value × Value))
  deriving Inhabited

namespace Value

/-- The integer that a value is. -/
def integer? : Value → Option Int
  | natural n => some n
  | negative n => some (-n)
  | _ => none

/-- The integer without sign that a value is. -/
def natural? : Value → Option Nat
  | natural n => some n
  | negative 0 => some 0
  | _ => none

/-- The truth value that a value is. -/
def flag? : Value → Option Bool
  | flag b => some b
  | _ => none

/-- The text that a value is. -/
def text? : Value → Option String
  | text s => some s
  | _ => none

/-- A value other than nothing. -/
def isPresent : Value → Bool
  | null => false
  | _ => true

end Value

end ConnectorLifecycle
