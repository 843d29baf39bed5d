import ConnectorLifecycle.Address.Reading

/-!
# Written numbers

A written number consists of digits, has no needless zero in front, and is not longer than its bound
allows. So whatever is read under such conditions reads every number that was written: within its
bound, `decimalBelow?_decimal`, and then as an octet, a group, a port or a scope. No separator of an
address is a digit.
-/

namespace ConnectorLifecycle

section Digits

variable {base n : Nat} {c : Char}

/-- A written number consists of digits. -/
theorem digitValue?_of_mem_toDigits (hb : 1 < base) (hb' : base ≤ 16)
    (h : c ∈ Nat.toDigits base n) : (digitValue? c).isSome = true := by
  induction n using Nat.strongRecOn with
  | ind n ih =>
    rw [Nat.toDigits_eq_if hb] at h
    by_cases hn : n < base
    · rw [if_pos hn, List.mem_singleton] at h
      rw [h, digitValue?_digitChar (by omega)]
      rfl
    · rw [if_neg hn, List.mem_append, List.mem_singleton] at h
      have hlast : n % base < base := Nat.mod_lt _ (by omega)
      rcases h with h | h
      · exact ih (n / base) (Nat.div_lt_self (by omega) hb) h
      · rw [h, digitValue?_digitChar (by omega)]
        rfl

/-- What is no digit does not occur in a written number. -/
theorem not_mem_toDigits (hb : 1 < base) (hb' : base ≤ 16) (hc : digitValue? c = none) :
    c ∉ Nat.toDigits base n := by
  intro h
  have hdigit := digitValue?_of_mem_toDigits hb hb' h
  rw [hc] at hdigit
  cases hdigit

/-- Only nothing is written with a zero in front. -/
theorem eq_zero_of_head?_toDigits (hb : 1 < base) (hb' : base ≤ 16)
    (h : (Nat.toDigits base n).head? = some '0') : n = 0 := by
  induction n using Nat.strongRecOn with
  | ind n ih =>
    rw [Nat.toDigits_eq_if hb] at h
    by_cases hn : n < base
    · rw [if_pos hn, List.head?_cons, Option.some.injEq] at h
      have hvalue := digitValue?_digitChar (d := n) (by omega)
      rw [h] at hvalue
      exact (Option.some.inj hvalue).symm
    · have hpos : 0 < n / base := Nat.div_pos (by omega) (by omega)
      obtain ⟨first, rest, hdigits⟩ :=
        List.exists_cons_of_ne_nil (Nat.toDigits_ne_nil (n := n / base) (b := base))
      rw [if_neg hn, hdigits, List.cons_append, List.head?_cons] at h
      have hzero := ih (n / base) (Nat.div_lt_self (by omega) hb) (by rw [hdigits]; exact h)
      omega

/-- A written number with a zero in front is one digit long. -/
theorem length_of_head?_toDigits (hb : 1 < base) (hb' : base ≤ 16)
    (h : (Nat.toDigits base n).head? = some '0') : (Nat.toDigits base n).length = 1 := by
  rw [eq_zero_of_head?_toDigits hb hb' h, Nat.toDigits_of_lt_base (by omega)]
  rfl

end Digits

section Decimal

variable {bound n : Nat}

/-- A written number reads back within every bound that it keeps. -/
theorem decimalBelow?_decimal (h : n < bound) : decimalBelow? bound (decimal n) = some n := by
  rw [decimalBelow?, decimal, numeral?_toDigits (by omega) (by omega)]
  exact if_pos h

/-- A written port reads back. -/
theorem port?_decimal (port : UInt16) : port? (decimal port.toNat) = some port := by
  rw [port?, decimalBelow?_decimal port.toNat_lt, Option.map_some, UInt16.ofNat_toNat]

/-- A written scope reads back. -/
theorem scope?_decimal (scope : UInt32) : scope? (decimal scope.toNat) = some scope := by
  rw [scope?, decimalBelow?_decimal scope.toNat_lt, Option.map_some, UInt32.ofNat_toNat]

/-- A written octet reads back, as it is short and has no needless zero. -/
theorem Ipv4.octet?_decimal (octet : UInt8) : octet? (decimal octet.toNat) = some octet := by
  have hbound : octet.toNat < 256 := octet.toNat_lt
  have hlength : (decimal octet.toNat).length ≤ 3 :=
    (Nat.length_toDigits_le_iff (by omega) (by omega)).mpr (by omega)
  have hzero : (decimal octet.toNat).head? = some '0' → (decimal octet.toNat).length = 1 :=
    length_of_head?_toDigits (by omega) (by omega)
  rw [octet?, if_pos ⟨hlength, hzero⟩, decimalBelow?_decimal octet.toNat_lt, Option.map_some,
    UInt8.ofNat_toNat]

end Decimal

/-- A written group reads back, as it is short. -/
theorem Ipv6.group?_hexadecimal (group : UInt16) :
    group? (hexadecimal group.toNat) = some group := by
  have hbound : group.toNat < 65536 := group.toNat_lt
  have hlength : (hexadecimal group.toNat).length ≤ 4 :=
    (Nat.length_toDigits_le_iff (by omega) (by omega)).mpr (by omega)
  rw [group?, if_pos hlength, hexadecimal, numeral?_toDigits (by omega) (by omega),
    Option.map_some, UInt16.ofNat_toNat]

end ConnectorLifecycle
