import ConnectorLifecycle.Address.Printing

/-!
# The one form of an address

`Ipv6.Written` is the rule by which IPv6 addresses are written, stated without the search for the
place of the gap: an address that stands for an IPv4 address shows that address; otherwise zeros in
a row are left out, as many as there are anywhere and the first of as many, if they are two or more;
and otherwise all groups are there. The rule allows one form for each address, and that is the form
that is written. `SocketAddress.Written` adds the scope, if there is one, and the port.
-/

namespace ConnectorLifecycle

/-- Going through the numbers below a bound for a larger value finds the first greatest one. -/
theorem first_greatest (f : Nat → Nat) (n : Nat) :
    let best := (List.range n).foldl (fun best i => if f best < f i then i else best) 0
    (∀ i < n, f i ≤ f best) ∧ ∀ i < best, f i < f best := by
  induction n with
  | zero =>
    refine ⟨fun i hi => absurd hi (Nat.not_lt_zero i), fun i hi => absurd hi (Nat.not_lt_zero i)⟩
  | succ n ih =>
    rw [List.range_succ, List.foldl_append, List.foldl_cons, List.foldl_nil]
    generalize (List.range n).foldl (fun best i => if f best < f i then i else best) 0 = best at ih
    obtain ⟨greatest, first⟩ := ih
    by_cases hlarger : f best < f n
    · simp only [if_pos hlarger]
      constructor
      · intro i hi
        by_cases hin : i = n
        · exact Nat.le_of_eq (congrArg f hin)
        · have hle := greatest i (by omega)
          omega
      · intro i hi
        have hle := greatest i hi
        omega
    · simp only [if_neg hlarger]
      refine ⟨fun i hi => ?_, first⟩
      by_cases hin : i = n
      · rw [hin]
        omega
      · exact greatest i (by omega)

namespace Ipv6

variable {groups : List UInt16} {i n : Nat}

/-- A number of groups in a row from a place on are zero. -/
def ZerosAt (groups : List UInt16) (i n : Nat) : Prop := ∀ k < n, groups[i + k]? = some 0

/-- A list begins with a number of zeros if it goes on being zero for as long. -/
theorem le_length_takeWhile_iff :
    n ≤ (groups.takeWhile (· = 0)).length ↔ ∀ k < n, groups[k]? = some 0 := by
  induction groups generalizing n with
  | nil =>
    constructor
    · intro h k hk
      rw [List.takeWhile_nil, List.length_nil] at h
      omega
    · intro h
      cases n with
      | zero => exact Nat.zero_le _
      | succ n => cases h 0 (Nat.succ_pos n)
  | cons g rest ih =>
    cases n with
    | zero => exact iff_of_true (Nat.zero_le _) fun k hk => absurd hk (Nat.not_lt_zero k)
    | succ n =>
      by_cases hg : g = 0
      · have hcons : (g :: rest).takeWhile (· = 0) = g :: rest.takeWhile (· = 0) :=
          List.takeWhile_cons_of_pos (decide_eq_true hg)
        rw [hcons, List.length_cons, Nat.add_le_add_iff_right, ih]
        constructor
        · intro h k hk
          cases k with
          | zero => rw [hg, List.getElem?_cons_zero]
          | succ k => exact h k (by omega)
        · exact fun h k hk => h (k + 1) (by omega)
      · have hnil : (g :: rest).takeWhile (· = 0) = [] :=
          List.takeWhile_cons_of_neg (by simpa using hg)
        rw [hnil]
        refine iff_of_false (Nat.not_succ_le_zero n) fun h => hg ?_
        exact Option.some.inj (h 0 (Nat.succ_pos n))

/-- As many groups are zero from a place on as are counted there. -/
theorem zerosAt_iff : ZerosAt groups i n ↔ n ≤ zerosFrom groups i := by
  rw [zerosFrom, le_length_takeWhile_iff]
  simp only [ZerosAt, List.getElem?_drop]

/-- Nowhere are there more zeros in a row than at the place of the gap. -/
theorem zerosFrom_le_longest (groups : List UInt16) (i : Nat) :
    zerosFrom groups i ≤ zerosFrom groups (longestZeros groups) := by
  by_cases hi : i < groups.length
  · exact (first_greatest (zerosFrom groups) groups.length).1 i hi
  · have hnone : zerosFrom groups i = 0 := by
      rw [zerosFrom, List.drop_eq_nil_of_le (by omega)]
      rfl
    omega

/-- Before the place of the gap there are fewer zeros in a row. -/
theorem zerosFrom_lt_longest (h : i < longestZeros groups) :
    zerosFrom groups i < zerosFrom groups (longestZeros groups) :=
  (first_greatest (zerosFrom groups) groups.length).2 i h

/-- The forms in which eight groups are written. -/
inductive Written : List UInt16 → List Char → Prop
  /-- Five zeros and `ffff` stand in front of an IPv4 address. -/
  | mapped (high low : UInt16) :
      Written [0, 0, 0, 0, 0, 0xffff, high, low]
        (':' :: ':' :: 'f' :: 'f' :: 'f' :: 'f' :: ':' :: (embedded high low).chars)
  /-- The first of the longest runs of zeros is left out, if it is two groups or more. -/
  | gap {groups : List UInt16} {i n : Nat}
      (plain : ∀ high low, groups ≠ [0, 0, 0, 0, 0, 0xffff, high, low]) (two : 2 ≤ n)
      (zeros : ZerosAt groups i n) (longest : ∀ j m, ZerosAt groups j m → m ≤ n)
      (first : ∀ j, ZerosAt groups j n → i ≤ j) :
      Written groups
        (groupChars (groups.take i) ++ ':' :: ':' :: groupChars (groups.drop (i + n)))
  /-- No two zeros stand together, so all groups are there. -/
  | whole {groups : List UInt16}
      (plain : ∀ high low, groups ≠ [0, 0, 0, 0, 0, 0xffff, high, low])
      (apart : ∀ i, ¬ ZerosAt groups i 2) : Written groups (groupChars groups)

/-- What does not stand for an IPv4 address has other groups. -/
theorem ne_mapped_of_mapped? (h : mapped? groups = none) (high low : UInt16) :
    groups ≠ [0, 0, 0, 0, 0, 0xffff, high, low] := by
  intro heq
  rw [heq] at h
  cases h

/-- The gap is put in place of the first of the longest runs of zeros. -/
theorem written_compressed (plain : ∀ high low, groups ≠ [0, 0, 0, 0, 0, 0xffff, high, low]) :
    Written groups (compressed groups) := by
  rw [compressed]
  have longest : ∀ j m, ZerosAt groups j m → m ≤ zerosFrom groups (longestZeros groups) :=
    fun j m hzeros => Nat.le_trans (zerosAt_iff.mp hzeros) (zerosFrom_le_longest groups j)
  by_cases hcount : 1 < zerosFrom groups (longestZeros groups)
  · rw [if_pos hcount]
    refine .gap plain hcount (zerosAt_iff.mpr (Nat.le_refl _)) longest fun j hzeros => ?_
    refine Nat.le_of_not_lt fun hbefore => ?_
    have hfewer := zerosFrom_lt_longest hbefore
    have hmany := zerosAt_iff.mp hzeros
    omega
  · rw [if_neg hcount]
    exact .whole plain fun i hzeros => hcount (longest i 2 hzeros)

/-- An address is written in a form that the rule allows. -/
theorem written_chars (ip : Ipv6) : Written ip.groups ip.chars := by
  rw [chars]
  unfold mapped?
  split
  · next heq =>
    split at heq
    · next high low hgroups =>
      obtain rfl := Option.some.inj heq
      rw [hgroups]
      exact .mapped high low
    · cases heq
  · next heq => exact written_compressed (ne_mapped_of_mapped? heq)

/-- The rule allows one form. -/
theorem Written.unique {cs cs' : List Char} (h : Written groups cs) (h' : Written groups cs') :
    cs = cs' := by
  cases h with
  | mapped high low =>
    cases h' with
    | mapped => rfl
    | gap plain | whole plain => exact absurd rfl (plain high low)
  | @gap _ i n plain two zeros longest first =>
    cases h' with
    | mapped high low => exact absurd rfl (plain high low)
    | @gap _ j m _ _ zeros' longest' first' =>
      have hlength : n = m := Nat.le_antisymm (longest' i n zeros) (longest j m zeros')
      subst hlength
      have hplace : i = j := Nat.le_antisymm (first j zeros') (first' i zeros)
      rw [hplace]
    | whole _ apart =>
      exact absurd (fun k hk => zeros k (Nat.lt_of_lt_of_le hk two)) (apart i)
  | whole plain apart =>
    cases h' with
    | mapped high low => exact absurd rfl (plain high low)
    | @gap _ i n _ two zeros =>
      exact absurd (fun k hk => zeros k (Nat.lt_of_lt_of_le hk two)) (apart i)
    | whole => rfl

end Ipv6

namespace SocketAddress

/-- The forms in which addresses with ports are written. -/
inductive Written : SocketAddress → List Char → Prop
  /-- An IPv4 address and its port. -/
  | v4 (ip : Ipv4) (port : UInt16) :
      Written (.v4 ip port) (ip.chars ++ ':' :: decimal port.toNat)
  /-- An IPv6 address without scope in brackets, and its port. -/
  | v6 {ip : Ipv6} {cs : List Char} (host : Ipv6.Written ip.groups cs)
      (port : UInt16) :
      Written (.v6 ip 0 port) ('[' :: cs ++ ']' :: ':' :: decimal port.toNat)
  /-- An IPv6 address with its scope in brackets, and its port. -/
  | v6InScope {ip : Ipv6} {cs : List Char} {scope : UInt32} (host : Ipv6.Written ip.groups cs)
      (meant : scope ≠ 0) (port : UInt16) :
      Written (.v6 ip scope port)
        ('[' :: cs ++ '%' :: decimal scope.toNat ++ ']' :: ':' :: decimal port.toNat)

/-- The form that is written is the one that the rule allows. -/
theorem written_iff {a : SocketAddress} {cs : List Char} : Written a cs ↔ cs = a.chars := by
  constructor
  · intro h
    cases h with
    | v4 ip port => rfl
    | @v6 ip cs host port =>
      rw [host.unique ip.written_chars, chars, scopeChars, if_pos rfl, List.append_nil]
    | @v6InScope ip cs scope host meant port =>
      rw [host.unique ip.written_chars, chars, scopeChars, if_neg meant]
  · rintro rfl
    cases a with
    | v4 ip port => exact .v4 ip port
    | v6 ip scope port =>
      rw [chars, scopeChars]
      by_cases hscope : scope = 0
      · rw [if_pos hscope, List.append_nil, hscope]
        exact .v6 ip.written_chars port
      · rw [if_neg hscope]
        exact .v6InScope ip.written_chars hscope port

end SocketAddress

end ConnectorLifecycle
