/-!
# Numerals

Numbers are written with the digits `0` to `9` and `a` to `f`, most significant first. Reading takes
letters in either case and any number of leading zeros, and refuses a text without digits.
`numeral?_toDigits` says that a written number reads back.
-/

namespace ConnectorLifecycle

/-- The worth of a digit of a base up to sixteen. -/
def digitValue? (c : Char) : Option Nat :=
  if '0' ≤ c ∧ c ≤ '9' then some (c.toNat - 48)
  else if 'a' ≤ c ∧ c ≤ 'f' then some (c.toNat - 87)
  else if 'A' ≤ c ∧ c ≤ 'F' then some (c.toNat - 55)
  else none

/-- Read further digits after those that make `n`. -/
def numeralFrom? (base n : Nat) : List Char → Option Nat
  | [] => some n
  | c :: rest => do
    let d ← digitValue? c
    if d < base then numeralFrom? base (base * n + d) rest else none

/-- Read a numeral that has at least one digit. -/
def numeral? (base : Nat) : List Char → Option Nat
  | [] => none
  | cs => numeralFrom? base 0 cs

/-- Reading goes on where it stopped. -/
theorem numeralFrom?_append (base n : Nat) (xs ys : List Char) :
    numeralFrom? base n (xs ++ ys) = (numeralFrom? base n xs).bind (numeralFrom? base · ys) := by
  induction xs generalizing n with
  | nil => rfl
  | cons c xs ih =>
    simp only [List.cons_append, numeralFrom?]
    cases digitValue? c with
    | none => rfl
    | some d =>
      by_cases h : d < base
      · simp [h, ih]
      · simp [h]

/-- A digit as it is written has its worth. -/
theorem digitValue?_digitChar {d : Nat} (h : d < 16) : digitValue? d.digitChar = some d := by
  revert d
  decide

/-- A written number reads back. -/
theorem numeralFrom?_toDigits {base : Nat} (hb : 1 < base) (hb' : base ≤ 16) (n : Nat) :
    numeralFrom? base 0 (Nat.toDigits base n) = some n := by
  induction n using Nat.strongRecOn with
  | ind n ih =>
    rw [Nat.toDigits_eq_if hb]
    split
    · next h => simp [numeralFrom?, digitValue?_digitChar (Nat.lt_of_lt_of_le h hb'), h]
    · next h =>
      have hd : n % base < base := Nat.mod_lt _ (by omega)
      have hdiv := Nat.div_add_mod n base
      rw [numeralFrom?_append, ih (n / base) (Nat.div_lt_self (by omega) hb)]
      simp [numeralFrom?, digitValue?_digitChar (Nat.lt_of_lt_of_le hd hb'), hd, hdiv]

/-- A written number is a numeral that reads back. -/
theorem numeral?_toDigits {base : Nat} (hb : 1 < base) (hb' : base ≤ 16) (n : Nat) :
    numeral? base (Nat.toDigits base n) = some n := by
  have h := numeralFrom?_toDigits hb hb' n
  have hpos := Nat.length_toDigits_pos (b := base) (n := n)
  revert h hpos
  cases Nat.toDigits base n with
  | nil => intro _ hpos; exact absurd hpos (by simp)
  | cons c cs => exact fun h _ => h

/-- The digits of a number in decimal notation. -/
def decimal (n : Nat) : List Char := Nat.toDigits 10 n

/-- The digits of a number in hexadecimal notation. -/
def hexadecimal (n : Nat) : List Char := Nat.toDigits 16 n

/-- The decimal text of a number. -/
def decimalText (n : Nat) : String := String.ofList (decimal n)

/-- The decimal text of an integer, with a sign if it is negative. -/
def signedText : Int → String
  | .ofNat n => decimalText n
  | .negSucc n => String.ofList ('-' :: decimal (n + 1))

/-- The text of a truth value. -/
def flagText (b : Bool) : String := if b then "true" else "false"

/-- The pieces of a list between the occurrences of a separator. -/
def piecesAt (sep : Char) : List Char → List (List Char)
  | [] => [[]]
  | c :: rest =>
    if c = sep then [] :: piecesAt sep rest
    else match piecesAt sep rest with
      | [] => [[c]]
      | piece :: pieces => (c :: piece) :: pieces

/-- A list without the separator is one piece. -/
theorem piecesAt_of_not_mem {sep : Char} {cs : List Char} (h : sep ∉ cs) :
    piecesAt sep cs = [cs] := by
  induction cs with
  | nil => rfl
  | cons c cs ih =>
    rw [List.mem_cons, not_or] at h
    simp [piecesAt, Ne.symm h.1, ih h.2]

/-- A separator ends the first piece. -/
theorem piecesAt_append {sep : Char} {cs : List Char} (h : sep ∉ cs) (rest : List Char) :
    piecesAt sep (cs ++ sep :: rest) = cs :: piecesAt sep rest := by
  induction cs with
  | nil => simp [piecesAt]
  | cons c cs ih =>
    rw [List.mem_cons, not_or] at h
    simp [piecesAt, Ne.symm h.1, ih h.2]

end ConnectorLifecycle
