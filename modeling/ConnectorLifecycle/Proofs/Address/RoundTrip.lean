import Mathlib.Data.List.TakeWhile
import ConnectorLifecycle.Address.Printing
import ConnectorLifecycle.Proofs.Numerals

/-!
# Written addresses read back

What is written of an address never contains the sign that ends it, so reading cuts a text where
writing put it together: an IPv4 address at its points, an IPv6 address at `::` and at its colons, a
socket address at the colon or the brackets in front of its port and at the sign in front of its
scope. `::` stands for the zeros that are missing among eight groups, which are those that were left
out. So every address is read back from its text, and different addresses have different texts.
-/

namespace ConnectorLifecycle

section Pieces

variable {c sep : Char} {cs : List Char}

/-- A character other than the separator is in one of the pieces. -/
theorem exists_mem_piecesAt (hne : c ≠ sep) (h : c ∈ cs) :
    ∃ piece ∈ piecesAt sep cs, c ∈ piece := by
  induction cs with
  | nil => cases h
  | cons x rest ih =>
    rw [piecesAt]
    by_cases hx : x = sep
    · have hrest : c ∈ rest := (List.mem_cons.mp h).resolve_left fun heq => hne (heq.trans hx)
      obtain ⟨piece, hpiece, hc⟩ := ih hrest
      rw [if_pos hx]
      exact ⟨piece, List.mem_cons_of_mem _ hpiece, hc⟩
    · rw [if_neg hx]
      cases hpieces : piecesAt sep rest with
      | nil =>
        have hhead : c = x := by
          rcases List.mem_cons.mp h with heq | hrest
          · exact heq
          · obtain ⟨piece, hpiece, _⟩ := ih hrest
            rw [hpieces] at hpiece
            cases hpiece
        exact ⟨[x], List.mem_singleton_self _, List.mem_singleton.mpr hhead⟩
      | cons first others =>
        rcases List.mem_cons.mp h with rfl | hrest
        · exact ⟨c :: first, List.mem_cons_self, List.mem_cons_self⟩
        · obtain ⟨piece, hpiece, hc⟩ := ih hrest
          rw [hpieces] at hpiece
          rcases List.mem_cons.mp hpiece with rfl | hother
          · exact ⟨x :: piece, List.mem_cons_self, List.mem_cons_of_mem _ hc⟩
          · exact ⟨piece, List.mem_cons_of_mem _ hother, hc⟩

/-- What contains something other than digits is no numeral. -/
theorem numeralFrom?_eq_none_of_mem {base : Nat} (hc : digitValue? c = none) (h : c ∈ cs)
    (n : Nat) : numeralFrom? base n cs = none := by
  induction cs generalizing n with
  | nil => cases h
  | cons x rest ih =>
    rcases List.mem_cons.mp h with rfl | hrest
    · simp [numeralFrom?, hc]
    · rw [numeralFrom?]
      cases digitValue? x with
      | none => rfl
      | some d =>
        change (if d < base then numeralFrom? base (base * n + d) rest else none) = none
        rw [ih hrest, ite_self]

/-- A list without a character is not cut at it. -/
theorem cutAt_of_not_mem (h : c ∉ cs) : cutAt c cs = none := by
  induction cs with
  | nil => rfl
  | cons x rest ih =>
    rw [List.mem_cons, not_or] at h
    rw [cutAt, if_neg (Ne.symm h.1), ih h.2]
    rfl

/-- A list is cut at the first occurrence of a character. -/
theorem cutAt_append (h : c ∉ cs) (after : List Char) :
    cutAt c (cs ++ c :: after) = some (cs, after) := by
  induction cs with
  | nil => rw [List.nil_append, cutAt, if_pos rfl]
  | cons x rest ih =>
    rw [List.mem_cons, not_or] at h
    rw [List.cons_append, cutAt, if_neg (Ne.symm h.1), ih h.2]
    rfl

end Pieces

namespace Ipv4

variable {c : Char} {cs : List Char}

/-- An IPv4 address is written with digits and points. -/
theorem not_mem_chars (ip : Ipv4) (hc : digitValue? c = none) (hpoint : c ≠ '.') :
    c ∉ ip.chars := by
  have hdigits : ∀ n, c ∉ decimal n := fun n => not_mem_toDigits (by omega) (by omega) hc
  simp [chars, hdigits, hpoint]

/-- An IPv4 address is too long for a group. -/
theorem length_chars (ip : Ipv4) : 7 ≤ ip.chars.length := by
  have hpos : ∀ n, 0 < (decimal n).length := fun n => Nat.length_toDigits_pos
  have ha := hpos ip.a.toNat
  have hb := hpos ip.b.toNat
  have hc := hpos ip.c.toNat
  have hd := hpos ip.d.toNat
  simp only [chars, List.length_append, List.length_cons]
  omega

/-- An octet consists of digits. -/
theorem octet?_eq_none_of_mem (hc : digitValue? c = none) (h : c ∈ cs) : octet? cs = none := by
  have hnumeral : numeral? 10 cs = none := by
    cases cs with
    | nil => cases h
    | cons x rest => exact numeralFrom?_eq_none_of_mem hc h 0
  rw [octet?, decimalBelow?, hnumeral]
  split <;> rfl

/-- What contains something other than digits and points is no IPv4 address. -/
theorem read?_eq_none_of_mem (hc : digitValue? c = none) (hpoint : c ≠ '.') (h : c ∈ cs) :
    read? cs = none := by
  obtain ⟨piece, hpiece, hmem⟩ := exists_mem_piecesAt hpoint h
  have hnone := octet?_eq_none_of_mem hc hmem
  rw [read?]
  split
  · next a b c' d hpieces =>
    rw [hpieces] at hpiece
    simp only [List.mem_cons, List.not_mem_nil, or_false] at hpiece
    rcases hpiece with rfl | rfl | rfl | rfl <;> simp [hnone]
  · rfl

/-- An IPv4 address is read back from its octets. -/
theorem read?_chars (ip : Ipv4) : read? ip.chars = some ip := by
  have hpoint : ∀ n, '.' ∉ decimal n := fun n =>
    not_mem_toDigits (by omega) (by omega) (by decide)
  have hpieces : piecesAt '.' ip.chars =
      [decimal ip.a.toNat, decimal ip.b.toNat, decimal ip.c.toNat, decimal ip.d.toNat] := by
    simp only [chars, List.append_assoc, List.cons_append]
    rw [piecesAt_append (hpoint _), piecesAt_append (hpoint _), piecesAt_append (hpoint _),
      piecesAt_of_not_mem (hpoint _)]
  rw [read?, hpieces]
  simp [octet?_decimal]

end Ipv4

namespace Ipv6

variable {c : Char} {cs piece : List Char}

section Groups

/-- Groups are written with digits and colons. -/
theorem not_mem_groupChars (groups : List UInt16) (hc : digitValue? c = none) (hcolon : c ≠ ':') :
    c ∉ groupChars groups := by
  have hdigits : ∀ n, c ∉ hexadecimal n := fun n => not_mem_toDigits (by omega) (by omega) hc
  induction groups with
  | nil => exact List.not_mem_nil
  | cons g rest ih =>
    cases rest with
    | nil => exact hdigits _
    | cons g' rest =>
      rw [groupChars, List.mem_append, List.mem_cons, not_or, not_or]
      · exact ⟨hdigits _, hcolon, ih⟩
      · exact List.cons_ne_nil _ _

/-- No colon is part of a written group. -/
theorem colon_not_mem_hexadecimal (n : Nat) : ':' ∉ hexadecimal n :=
  not_mem_toDigits (by omega) (by omega) (by decide)

/-- What is written of groups begins with a digit. -/
theorem exists_groupChars_eq_cons (g : UInt16) (rest : List UInt16) :
    ∃ x xs, groupChars (g :: rest) = x :: xs ∧ x ≠ ':' := by
  obtain ⟨x, xs, hdigits⟩ :=
    List.exists_cons_of_ne_nil (Nat.toDigits_ne_nil (n := g.toNat) (b := 16))
  have hx : x ≠ ':' := by
    intro heq
    apply colon_not_mem_hexadecimal g.toNat
    rw [hexadecimal, hdigits, heq]
    exact List.mem_cons_self
  cases rest with
  | nil => exact ⟨x, xs, hdigits, hx⟩
  | cons g' rest =>
    refine ⟨x, xs ++ ':' :: groupChars (g' :: rest), ?_, hx⟩
    rw [groupChars, hexadecimal, hdigits, List.cons_append]
    exact List.cons_ne_nil _ _

/-- Written groups are cut into the groups. -/
theorem piecesAt_groupChars (g : UInt16) (rest : List UInt16) :
    piecesAt ':' (groupChars (g :: rest)) =
      (g :: rest).map fun group => hexadecimal group.toNat := by
  induction rest generalizing g with
  | nil => exact piecesAt_of_not_mem (colon_not_mem_hexadecimal _)
  | cons g' rest ih =>
    rw [groupChars, piecesAt_append (colon_not_mem_hexadecimal _), ih, List.map_cons (a := g)]
    exact List.cons_ne_nil _ _

/-- Written groups read back one by one. -/
theorem groupsOf?_hexadecimal (tail : Bool) (groups : List UInt16) :
    groupsOf? tail (groups.map fun group => hexadecimal group.toNat) = some groups := by
  induction groups with
  | nil => rfl
  | cons g rest ih =>
    cases rest with
    | nil => simp [groupsOf?, group?_hexadecimal]
    | cons g' rest =>
      rw [List.map_cons] at ih ⊢
      rw [List.map_cons, groupsOf?, ih, group?_hexadecimal]
      · rfl
      · exact List.cons_ne_nil _ _

/-- Groups are read back from what is written of them, also if there are none. -/
theorem groupList?_groupChars (tail : Bool) (groups : List UInt16) :
    groupList? tail (groupChars groups) = some groups := by
  cases groups with
  | nil => rfl
  | cons g rest =>
    obtain ⟨x, xs, hchars, _⟩ := exists_groupChars_eq_cons g rest
    rw [hchars, groupList?, ← hchars, piecesAt_groupChars, groupsOf?_hexadecimal]
    exact List.cons_ne_nil _ _

/-- A gap is looked for behind what has no colon. -/
theorem cutAtGap_append (h : ':' ∉ piece) (rest : List Char) :
    cutAtGap (piece ++ rest) = (cutAtGap rest).map fun p => (piece ++ p.1, p.2) := by
  induction piece with
  | nil => simp
  | cons x xs ih =>
    rw [List.mem_cons, not_or] at h
    rw [List.cons_append, cutAtGap, ih h.2, Option.map_map]
    · rfl
    · exact fun _ heq => absurd heq.symm h.1

/-- A single colon is no gap. -/
theorem cutAtGap_colon (h : c ≠ ':') (rest : List Char) :
    cutAtGap (':' :: c :: rest) = (cutAtGap (c :: rest)).map fun p => (':' :: p.1, p.2) := by
  rw [cutAtGap]
  exact fun _ _ heq => h (List.cons.inj heq).1

/-- There is no gap between written groups, so it is looked for behind them. -/
theorem cutAtGap_groupChars_append (groups : List UInt16) (rest : List Char) :
    cutAtGap (groupChars groups ++ rest) =
      (cutAtGap rest).map fun p => (groupChars groups ++ p.1, p.2) := by
  induction groups with
  | nil => simp [groupChars]
  | cons g others ih =>
    cases others with
    | nil => exact cutAtGap_append (colon_not_mem_hexadecimal _) rest
    | cons g' others =>
      obtain ⟨x, xs, hchars, hx⟩ := exists_groupChars_eq_cons g' others
      have hcolon : cutAtGap (':' :: (groupChars (g' :: others) ++ rest)) =
          (cutAtGap rest).map fun p => (':' :: (groupChars (g' :: others) ++ p.1), p.2) := by
        rw [hchars, List.cons_append, cutAtGap_colon hx, ← List.cons_append, ← hchars, ih,
          Option.map_map]
        rfl
      rw [groupChars, List.append_assoc, cutAtGap_append (colon_not_mem_hexadecimal _),
        List.cons_append, hcolon, Option.map_map]
      · simp [Function.comp_def]
      · exact List.cons_ne_nil _ _

end Groups

section Zeros

/-- The zeros from a place on stand between what is before them and what is after them. -/
theorem eq_append_zerosFrom (groups : List UInt16) (i : Nat) :
    groups = groups.take i ++
      (List.replicate (zerosFrom groups i) 0 ++ groups.drop (i + zerosFrom groups i)) := by
  have hzeros : (groups.drop i).takeWhile (· = 0) = List.replicate (zerosFrom groups i) 0 := by
    refine List.eq_replicate_iff.mpr ⟨rfl, fun g hg => ?_⟩
    have hzero := List.mem_takeWhile_imp hg
    exact of_decide_eq_true hzero
  have hsplit : groups.drop i =
      List.replicate (zerosFrom groups i) 0 ++ (groups.drop i).dropWhile (· = 0) := by
    rw [← hzeros, List.takeWhile_append_dropWhile]
  have hrest : groups.drop (i + zerosFrom groups i) = (groups.drop i).dropWhile (· = 0) :=
    calc
      groups.drop (i + zerosFrom groups i) = (groups.drop i).drop (zerosFrom groups i) :=
        List.drop_drop.symm
      _ = (List.replicate (zerosFrom groups i) 0 ++ (groups.drop i).dropWhile (· = 0)).drop
          (zerosFrom groups i) := congrArg _ hsplit
      _ = (groups.drop i).dropWhile (· = 0) := List.drop_left' List.length_replicate
  rw [hrest, ← hsplit, List.take_append_drop]

end Zeros

/-- Eight groups make an address. -/
theorem ofGroups?_groups (ip : Ipv6) : ofGroups? ip.groups = some ip := dif_pos ip.length_groups

/-- Eight groups of which some zeros were left out read back. -/
theorem read?_gap {ip : Ipv6} {before after : List UInt16} {n : Nat} (hn : 1 ≤ n)
    (hgroups : ip.groups = before ++ (List.replicate n 0 ++ after)) :
    read? (groupChars before ++ ':' :: ':' :: groupChars after) = some ip := by
  have hlength := ip.length_groups
  rw [hgroups, List.length_append, List.length_append, List.length_replicate] at hlength
  have hcut : cutAtGap (groupChars before ++ ':' :: ':' :: groupChars after) =
      some (groupChars before, groupChars after) := by
    rw [cutAtGap_groupChars_append]
    simp [cutAtGap]
  have hmissing : 8 - before.length - after.length = n := by omega
  have hfew : before.length + after.length ≤ 7 := by omega
  rw [read?, hcut]
  simp only [groupList?_groupChars, Option.bind_eq_bind, Option.bind_some, if_pos hfew, hmissing]
  rw [List.append_assoc, ← hgroups, ofGroups?_groups]

/-- An address of which no zeros were left out reads back. -/
theorem read?_groupChars (ip : Ipv6) : read? (groupChars ip.groups) = some ip := by
  have hcut : cutAtGap (groupChars ip.groups) = none := by
    have hnone := cutAtGap_groupChars_append ip.groups []
    rwa [List.append_nil] at hnone
  rw [read?, hcut]
  simp only [groupList?_groupChars, Option.bind_eq_bind, Option.bind_some, ofGroups?_groups]

/-- An address reads back whether its zeros were left out or not. -/
theorem read?_compressed (ip : Ipv6) : read? (compressed ip.groups) = some ip := by
  rw [compressed]
  by_cases hcount : 1 < zerosFrom ip.groups (longestZeros ip.groups)
  · rw [if_pos hcount]
    exact read?_gap (by omega) (eq_append_zerosFrom ip.groups (longestZeros ip.groups))
  · rw [if_neg hcount]
    exact ip.read?_groupChars

section Mapped

/-- The upper and the lower octet of a group make the group. -/
theorem join_octets (g : UInt16) : (g >>> 8).toUInt8.toUInt16 <<< 8 ||| g.toUInt8.toUInt16 = g := by
  have hg : g.toNat < 65536 := g.toNat_lt
  have hlow : g.toNat % 256 < 2 ^ 8 := Nat.mod_lt _ (by omega)
  have hhigh : g.toNat / 256 % 256 * 256 % 65536 = (g.toNat / 256) <<< 8 := by
    rw [Nat.shiftLeft_eq]
    omega
  apply UInt16.toNat_inj.mp
  simp only [UInt16.toNat_or, UInt16.toNat_shiftLeft, UInt8.toNat_toUInt16, UInt16.toNat_toUInt8,
    UInt16.toNat_shiftRight, Nat.shiftRight_eq_div_pow, Nat.shiftLeft_eq]
  change g.toNat / 256 % 256 * 256 % 65536 ||| g.toNat % 256 = g.toNat
  rw [hhigh, ← Nat.shiftLeft_add_eq_or_of_lt hlow, Nat.shiftLeft_eq]
  omega

/-- The octets of two groups make the groups. -/
theorem groups_embedded (high low : UInt16) : (embedded high low).groups = [high, low] := by
  rw [Ipv4.groups, embedded, join_octets, join_octets]

/-- Only five zeros and `ffff` stand in front of an embedded IPv4 address. -/
theorem eq_of_mapped? {groups : List UInt16} {ip4 : Ipv4} (h : mapped? groups = some ip4) :
    ∃ high low, groups = [0, 0, 0, 0, 0, 0xffff, high, low] ∧ ip4 = embedded high low := by
  unfold mapped? at h
  split at h
  · next high low => exact ⟨high, low, rfl, (Option.some.inj h).symm⟩
  · cases h

/-- An address that stands for an IPv4 address reads back. -/
theorem read?_mapped {ip : Ipv6} {high low : UInt16}
    (hgroups : ip.groups = [0, 0, 0, 0, 0, 0xffff, high, low]) :
    read? (':' :: ':' :: 'f' :: 'f' :: 'f' :: 'f' :: ':' :: (embedded high low).chars) =
      some ip := by
  have hcolon : ':' ∉ (embedded high low).chars :=
    Ipv4.not_mem_chars _ (by decide) (by decide)
  have hpieces : piecesAt ':' ('f' :: 'f' :: 'f' :: 'f' :: ':' :: (embedded high low).chars) =
      [['f', 'f', 'f', 'f'], (embedded high low).chars] := by
    have hffff : ':' ∉ ['f', 'f', 'f', 'f'] := by decide
    have hcut := piecesAt_append hffff (embedded high low).chars
    rwa [piecesAt_of_not_mem hcolon] at hcut
  have hlong : group? (embedded high low).chars = none := by
    have hlength := (embedded high low).length_chars
    rw [group?, if_neg (by omega)]
  have hffff : group? ['f', 'f', 'f', 'f'] = some 0xffff := by decide
  rw [read?, cutAtGap]
  simp only [groupList?, hpieces, groupsOf?, hffff, hlong, Ipv4.read?_chars, groups_embedded,
    Option.bind_eq_bind, Option.bind_some, Option.map_some, if_true]
  exact (congrArg ofGroups? hgroups.symm).trans ip.ofGroups?_groups

end Mapped

/-- An IPv6 address is read back from its shortest usual form. -/
theorem read?_chars (ip : Ipv6) : read? ip.chars = some ip := by
  rw [chars]
  cases hmapped : mapped? ip.groups with
  | none => exact ip.read?_compressed
  | some ip4 =>
    obtain ⟨high, low, hgroups, rfl⟩ := eq_of_mapped? hmapped
    exact read?_mapped hgroups

/-- An IPv6 address is written with digits, colons and points. -/
theorem not_mem_chars (ip : Ipv6) (hc : digitValue? c = none) (hcolon : c ≠ ':')
    (hpoint : c ≠ '.') : c ∉ ip.chars := by
  rw [chars]
  cases mapped? ip.groups with
  | none =>
    have hgroups : ∀ groups, c ∉ groupChars groups := fun groups =>
      not_mem_groupChars groups hc hcolon
    change c ∉ compressed ip.groups
    rw [compressed]
    split <;> simp [hgroups, hcolon]
  | some ip4 =>
    have hf : c ≠ 'f' := by
      intro heq
      rw [heq] at hc
      cases hc
    simp [hcolon, hf, ip4.not_mem_chars hc hpoint]

/-- A colon stands in every IPv6 address. -/
theorem colon_mem_chars (ip : Ipv6) : ':' ∈ ip.chars := by
  rw [chars]
  cases mapped? ip.groups with
  | some ip4 => exact List.mem_cons_self
  | none =>
    change ':' ∈ compressed ip.groups
    rw [compressed]
    split
    · simp
    · -- Without a gap eight groups are written, and a colon stands behind the first one.
      obtain ⟨g, g', rest, hgroups⟩ : ∃ g g' rest, ip.groups = g :: g' :: rest := by
        match hgroups : ip.groups, ip.length_groups with
        | g :: g' :: rest, _ => exact ⟨g, g', rest, rfl⟩
      rw [hgroups, groupChars]
      · simp
      · exact List.cons_ne_nil _ _

end Ipv6

/-- An address without port is read back from its text. -/
theorem IpAddress.ofText?_text (ip : IpAddress) : ofText? ip.text = some ip := by
  rw [ofText?, text, String.toList_ofList]
  cases ip with
  | v4 ip =>
    change read? ip.chars = _
    rw [read?, ip.read?_chars]
  | v6 ip =>
    have hnone : Ipv4.read? ip.chars = none :=
      Ipv4.read?_eq_none_of_mem (by decide) (by decide) ip.colon_mem_chars
    change read? ip.chars = _
    rw [read?, hnone, ip.read?_chars]
    rfl

namespace SocketAddress

/-- What is written in brackets is no IPv4 address with a port. -/
theorem readV4?_bracket (cs : List Char) : readV4? ('[' :: cs) = none := by
  rw [readV4?, cutAt, if_neg (by decide)]
  cases cutAt ':' cs with
  | none => rfl
  | some parts =>
    have hnone : Ipv4.read? ('[' :: parts.1) = none :=
      Ipv4.read?_eq_none_of_mem (by decide) (by decide) List.mem_cons_self
    simp [hnone]

/-- An address in brackets is read with its scope and its port. -/
theorem readV6?_chars (ip : Ipv6) (scope : UInt32) (port : UInt16) :
    readV6? ('[' :: ip.chars ++ scopeChars scope ++ ']' :: ':' :: decimal port.toNat) =
      some (v6 ip scope port) := by
  have hscope : ∀ c, digitValue? c = none → c ≠ '%' → c ∉ scopeChars scope := by
    intro c hc hsign
    have hdigits : c ∉ decimal scope.toNat := not_mem_toDigits (by omega) (by omega) hc
    rw [scopeChars]
    split <;> simp [hdigits, hsign]
  have hinside : ']' ∉ ip.chars ++ scopeChars scope := by
    rw [List.mem_append, not_or]
    exact ⟨ip.not_mem_chars (by decide) (by decide) (by decide),
      hscope ']' (by decide) (by decide)⟩
  have hcut := cutAt_append hinside (':' :: decimal port.toNat)
  have hsign : '%' ∉ ip.chars := ip.not_mem_chars (by decide) (by decide) (by decide)
  simp only [List.cons_append, readV6?, hcut, port?_decimal, Option.bind_eq_bind,
    Option.bind_some]
  by_cases hzero : scope = 0
  · rw [scopeChars, if_pos hzero, List.append_nil, cutAt_of_not_mem hsign, hzero]
    simp [ip.read?_chars]
  · rw [scopeChars, if_neg hzero, cutAt_append hsign]
    simp [ip.read?_chars, scope?_decimal]

/-- A socket address is read back from its text. -/
theorem ofText?_text (a : SocketAddress) : ofText? a.text = some a := by
  rw [ofText?, text, String.toList_ofList]
  cases a with
  | v4 ip port =>
    have hcolon : ':' ∉ ip.chars := ip.not_mem_chars (by decide) (by decide)
    have hread : readV4? (ip.chars ++ ':' :: decimal port.toNat) = some (v4 ip port) := by
      simp [readV4?, cutAt_append hcolon, ip.read?_chars, port?_decimal]
    rw [chars, read?, hread]
  | v6 ip scope port =>
    rw [chars, read?, List.cons_append, List.cons_append, readV4?_bracket]
    exact readV6?_chars ip scope port

/-- Addresses with the same text are the same. -/
theorem text_inj {a b : SocketAddress} : a.text = b.text ↔ a = b := by
  constructor
  · intro h
    apply Option.some.inj
    rw [← ofText?_text a, h, ofText?_text]
  · exact fun h => congrArg text h

end SocketAddress

end ConnectorLifecycle
