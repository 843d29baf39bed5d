import ConnectorLifecycle.Address
import ConnectorLifecycle.Text.Numeral

/-!
# Reading addresses

An octet has at most three decimal digits and no needless zero in front, a group one to four
hexadecimal digits. Eight groups make an IPv6 address; fewer do if `::` stands for at least one
missing zero group, and the last two may be written as an IPv4 address. Ports and scopes are decimal
numbers with any number of leading zeros. Signs, blanks and host names are refused.
-/

namespace ConnectorLifecycle

/-- A number within bounds, written in decimal digits. -/
def decimalBelow? (bound : Nat) (cs : List Char) : Option Nat :=
  match numeral? 10 cs with
  | some n => if n < bound then some n else none
  | none => none

/-- A port number. -/
def port? (cs : List Char) : Option UInt16 :=
  (decimalBelow? UInt16.size cs).map UInt16.ofNat

/-- A scope number. -/
def scope? (cs : List Char) : Option UInt32 :=
  (decimalBelow? UInt32.size cs).map UInt32.ofNat

namespace Ipv4

/-- One of the four numbers. -/
def octet? (cs : List Char) : Option UInt8 :=
  if cs.length ≤ 3 ∧ (cs.head? = some '0' → cs.length = 1) then
    (decimalBelow? UInt8.size cs).map UInt8.ofNat
  else none

/-- Four octets between points. -/
def read? (cs : List Char) : Option Ipv4 :=
  match piecesAt '.' cs with
  | [a, b, c, d] => do some ⟨← octet? a, ← octet? b, ← octet? c, ← octet? d⟩
  | _ => none

/-- The two groups of sixteen bits that the octets make. -/
def groups (ip : Ipv4) : List UInt16 :=
  [ip.a.toUInt16 <<< 8 ||| ip.b.toUInt16, ip.c.toUInt16 <<< 8 ||| ip.d.toUInt16]

end Ipv4

namespace Ipv6

/-- One group of up to four digits. -/
def group? (cs : List Char) : Option UInt16 :=
  if cs.length ≤ 4 then (numeral? 16 cs).map UInt16.ofNat else none

/-- Groups, the last two of which may be written as an IPv4 address if `tail` allows that. -/
def groupsOf? (tail : Bool) : List (List Char) → Option (List UInt16)
  | [] => some []
  | [piece] =>
    match group? piece with
    | some g => some [g]
    | none => if tail then (Ipv4.read? piece).map Ipv4.groups else none
  | piece :: rest => do some ((← group? piece) :: (← groupsOf? tail rest))

/-- Groups between colons; no character at all is no group. -/
def groupList? (tail : Bool) : List Char → Option (List UInt16)
  | [] => some []
  | cs => groupsOf? tail (piecesAt ':' cs)

/-- What stands before and after the first `::`. -/
def cutAtGap : List Char → Option (List Char × List Char)
  | ':' :: ':' :: rest => some ([], rest)
  | c :: rest => (cutAtGap rest).map fun (before, after) => (c :: before, after)
  | [] => none

/-- Eight groups, if that is how many there are. -/
def ofGroups? (groups : List UInt16) : Option Ipv6 :=
  if h : groups.length = 8 then some ⟨groups, h⟩ else none

/-- An address of version 6. -/
def read? (cs : List Char) : Option Ipv6 :=
  match cutAtGap cs with
  | none => do ofGroups? (← groupList? true cs)
  | some (before, after) => do
    let head ← groupList? false before
    let tail ← groupList? true after
    if head.length + tail.length ≤ 7 then
      ofGroups? (head ++ List.replicate (8 - head.length - tail.length) 0 ++ tail)
    else none

end Ipv6

/-- What stands before and after the first occurrence of a character. -/
def cutAt (c : Char) : List Char → Option (List Char × List Char)
  | [] => none
  | x :: rest =>
    if x = c then some ([], rest)
    else (cutAt c rest).map fun (before, after) => (x :: before, after)

namespace IpAddress

/-- An address without port, of either version. -/
def read? (cs : List Char) : Option IpAddress :=
  match Ipv4.read? cs with
  | some ip => some (v4 ip)
  | none => (Ipv6.read? cs).map v6

/-- The address that a text denotes. -/
def ofText? (s : String) : Option IpAddress := read? s.toList

end IpAddress

namespace SocketAddress

/-- An IPv4 address and a port. -/
def readV4? (cs : List Char) : Option SocketAddress := do
  let (host, digits) ← cutAt ':' cs
  some (v4 (← Ipv4.read? host) (← port? digits))

/-- An IPv6 address in brackets, which may name its scope, and a port. -/
def readV6? : List Char → Option SocketAddress
  | '[' :: cs => do
    let (inside, after) ← cutAt ']' cs
    match after with
    | ':' :: digits =>
      let port ← port? digits
      match cutAt '%' inside with
      | none => some (v6 (← Ipv6.read? inside) 0 port)
      | some (host, scope) => some (v6 (← Ipv6.read? host) (← scope? scope) port)
    | _ => none
  | _ => none

/-- A socket address of either version. -/
def read? (cs : List Char) : Option SocketAddress :=
  match readV4? cs with
  | some a => some a
  | none => readV6? cs

/-- The socket address that a text denotes. -/
def ofText? (s : String) : Option SocketAddress := read? s.toList

end SocketAddress

/-- Leading zeros of a port are read, those of an octet are not. -/
example : SocketAddress.ofText? "127.0.0.1:0080" = some (.v4 ⟨127, 0, 0, 1⟩ 80) := by decide

end ConnectorLifecycle
