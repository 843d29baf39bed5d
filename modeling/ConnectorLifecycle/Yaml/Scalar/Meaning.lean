import ConnectorLifecycle.Text.Numeral
import ConnectorLifecycle.Value

/-!
# What plain scalars mean

A plain scalar is nothing, a truth value, an integer, another number or a text, and its spelling
alone decides which. Integers are decimal, hexadecimal, octal or binary; decimal digits after a
needless zero are a text. Integers that do not fit sixty-four bits are refused up to a size of 128
bits; beyond that decimal ones are numbers of the other kind, unless they are too large for that as
well.
-/

namespace ConnectorLifecycle.Yaml.Meaning

/-- The words for nothing. -/
def isNull (s : String) : Bool := ["null", "Null", "NULL", "~"].contains s

/-- The words for truth values. -/
def flag? (s : String) : Option Bool :=
  if ["true", "True", "TRUE"].contains s then some true
  else if ["false", "False", "FALSE"].contains s then some false
  else none

/-- Decimal digits after a needless zero. -/
def isPadded : List Char → Bool
  | '0' :: c :: rest => (c :: rest).all Char.isDigit
  | _ => false

/-- An integer without sign, in decimal notation or after the mark of another base. -/
def magnitude? : List Char → Option Nat
  | '0' :: 'x' :: digits => numeral? 16 digits
  | '0' :: 'o' :: digits => numeral? 8 digits
  | '0' :: 'b' :: digits => numeral? 2 digits
  | digits => if isPadded digits then none else numeral? 10 digits

/-- An integer with a plus sign or none. -/
def unsigned? (cs : List Char) : Option Nat :=
  match cs with
  | '+' :: rest => magnitude? rest
  | _ => magnitude? cs

/-- The size of an integer with a minus sign. -/
def negative? : List Char → Option Nat
  | '-' :: rest => magnitude? rest
  | _ => none

/-- An integer with any sign or none. -/
def integer? (cs : List Char) : Option Int :=
  match unsigned? cs, negative? cs with
  | some n, _ => some n
  | none, some n => some (-n)
  | none, none => none

/-- A decimal number: the digits of its whole part and of its fraction, and its exponent. -/
structure Decimal where
  /-- The digits before the point. -/
  whole : List Char
  /-- The digits after the point. -/
  fraction : List Char
  /-- The power of ten that the number is multiplied by. -/
  exponent : Int

namespace Decimal

/-- An exponent: nothing, or a letter followed by an integer. -/
def exponent? : List Char → Option Int
  | [] => some 0
  | c :: rest =>
    if c = 'e' || c = 'E' then
      match rest with
      | '-' :: digits => (numeral? 10 digits).map fun n => -n
      | '+' :: digits => (numeral? 10 digits).map fun n => n
      | digits => (numeral? 10 digits).map fun n => n
    else none

/-- Digits with a point before, among or after them, and perhaps an exponent. -/
def read? (cs : List Char) : Option Decimal := do
  let whole := cs.takeWhile Char.isDigit
  let (fraction, after) := match cs.dropWhile Char.isDigit with
    | '.' :: rest => (rest.takeWhile Char.isDigit, rest.dropWhile Char.isDigit)
    | rest => ([], rest)
  if whole.isEmpty && fraction.isEmpty then none
  else some { whole, fraction, exponent := ← exponent? after }

/-- The least number that is too large for a float of sixty-four bits. -/
def tooLarge : Nat := Nat.pow 2 1024 - Nat.pow 2 970

/-- The number can be rounded to a float of sixty-four bits. -/
def isFinite (d : Decimal) : Bool :=
  let digits := (d.whole ++ d.fraction).dropWhile (· = '0')
  let exponent := d.exponent - d.fraction.length
  let size := exponent + digits.length
  if digits.isEmpty || size < 0 then true
  else if 310 < size then false
  else
    let n := (numeral? 10 digits).getD 0
    n * Nat.pow 10 exponent.toNat < tooLarge * Nat.pow 10 (-exponent).toNat

end Decimal

/-- A number with a point or an exponent, a large decimal integer, an infinity or no number. -/
def isReal (cs : List Char) : Bool :=
  let unsigned := match cs with
    | '+' :: rest => rest
    | _ => cs
  let magnitude := match cs with
    | '+' :: rest => rest
    | '-' :: rest => rest
    | _ => cs
  [".inf", ".Inf", ".INF"].contains (String.ofList unsigned) ||
    ["-.inf", "-.Inf", "-.INF", ".nan", ".NaN", ".NAN"].contains (String.ofList cs) ||
    ((Decimal.read? magnitude).map Decimal.isFinite).getD false

/-- Digits after a needless zero, with a sign or without one. -/
def isPaddedNumber : List Char → Bool
  | '+' :: rest => isPadded rest
  | '-' :: rest => isPadded rest
  | cs => isPadded cs

/-- The integer that a scalar is; `none` inside stands for one that is refused for its size. -/
def integerValue? (cs : List Char) : Option (Option Value) :=
  match unsigned? cs, negative? cs with
  | some n, _ =>
    if n < UInt64.size then some (some (.natural n))
    else if n < Nat.pow 2 128 then some none else none
  | none, some n =>
    if n ≤ Nat.pow 2 63 then some (some (.negative n))
    else if n ≤ Nat.pow 2 127 then some none else none
  | none, none => none

/-- What a plain scalar without a tag means. -/
def value? (s : String) : Option Value :=
  if s.isEmpty || isNull s then some .null
  else
    match flag? s with
    | some b => some (.flag b)
    | none =>
      match integerValue? s.toList with
      | some v => v
      | none =>
        if !isPaddedNumber s.toList && isReal s.toList then some .real else some (.text s)

end ConnectorLifecycle.Yaml.Meaning
