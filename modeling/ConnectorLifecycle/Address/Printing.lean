import ConnectorLifecycle.Address
import ConnectorLifecycle.Text.Numeral

/-!
# Writing addresses

An IPv4 address is written as four decimal octets. Of an IPv6 address the first longest run of two
or more zero groups becomes `::` and the other groups are lower-case hexadecimal numbers; an address
that stands for an IPv4 address is written as `::ffff:` and that address. A socket address is
`address:port`, with brackets around version 6, and a scope other than `0` follows a `%`.
-/

namespace ConnectorLifecycle

/-- Four octets with points between them. -/
def Ipv4.chars (ip : Ipv4) : List Char :=
  decimal ip.a.toNat ++ '.' :: decimal ip.b.toNat ++ '.' :: decimal ip.c.toNat ++ '.' ::
    decimal ip.d.toNat

namespace Ipv6

/-- Groups with colons between them. -/
def groupChars : List UInt16 → List Char
  | [] => []
  | [g] => hexadecimal g.toNat
  | g :: rest => hexadecimal g.toNat ++ ':' :: groupChars rest

/-- The number of zero groups that stand together from a place on. -/
def zerosFrom (groups : List UInt16) (i : Nat) : Nat :=
  ((groups.drop i).takeWhile (· = 0)).length

/-- The place of the first longest run of zero groups. -/
def longestZeros (groups : List UInt16) : Nat :=
  (List.range groups.length).foldl
    (fun best i => if zerosFrom groups best < zerosFrom groups i then i else best) 0

/-- Groups with their first longest run of two or more zeros written as `::`. -/
def compressed (groups : List UInt16) : List Char :=
  let start := longestZeros groups
  let count := zerosFrom groups start
  if 1 < count then
    groupChars (groups.take start) ++ ':' :: ':' :: groupChars (groups.drop (start + count))
  else groupChars groups

/-- The IPv4 address made of two groups. -/
def embedded (high low : UInt16) : Ipv4 :=
  ⟨(high >>> 8).toUInt8, high.toUInt8, (low >>> 8).toUInt8, low.toUInt8⟩

/-- The IPv4 address that the groups stand for, if the first six are five zeros and `ffff`. -/
def mapped? : List UInt16 → Option Ipv4
  | [0, 0, 0, 0, 0, 0xffff, high, low] => some (embedded high low)
  | _ => none

/-- The shortest usual form of an address of version 6. -/
def chars (ip : Ipv6) : List Char :=
  match mapped? ip.groups with
  | some ip4 => ':' :: ':' :: 'f' :: 'f' :: 'f' :: 'f' :: ':' :: ip4.chars
  | none => compressed ip.groups

end Ipv6

/-- The form of an address without port. -/
def IpAddress.chars : IpAddress → List Char
  | v4 ip => ip.chars
  | v6 ip => ip.chars

/-- The text of an address without port. -/
def IpAddress.text (ip : IpAddress) : String := String.ofList ip.chars

/-- A scope after its sign, or nothing for no scope. -/
def scopeChars (scope : UInt32) : List Char :=
  if scope = 0 then [] else '%' :: decimal scope.toNat

/-- The form of an address with its port. -/
def SocketAddress.chars : SocketAddress → List Char
  | v4 ip port => ip.chars ++ ':' :: decimal port.toNat
  | v6 ip scope port =>
    '[' :: ip.chars ++ scopeChars scope ++ ']' :: ':' :: decimal port.toNat

/-- The text of an address with its port. -/
def SocketAddress.text (a : SocketAddress) : String := String.ofList a.chars

end ConnectorLifecycle
