/-!
# Socket addresses

An IPv4 address has four octets and an IPv6 address eight groups of sixteen bits. A socket address
adds a port and, for IPv6, the number of the scope in which the address is meant; scope `0` is none.
-/

namespace ConnectorLifecycle

/-- Four octets, the first one most significant. -/
structure Ipv4 where
  /-- The four octets. -/
  (a b c d : UInt8)
  deriving DecidableEq, Repr

/-- Eight groups of sixteen bits, the first one most significant. -/
structure Ipv6 where
  /-- The groups in order. -/
  groups : List UInt16
  /-- There are eight of them. -/
  length_groups : groups.length = 8
  deriving DecidableEq, Repr

/-- An address without a port. -/
inductive IpAddress where
  /-- An address of version 4. -/
  | v4 (ip : Ipv4)
  /-- An address of version 6. -/
  | v6 (ip : Ipv6)
  deriving DecidableEq, Repr

/-- An address with a port. -/
inductive SocketAddress where
  /-- An address of version 4 with a port. -/
  | v4 (ip : Ipv4) (port : UInt16)
  /-- An address of version 6 in a scope, with a port. -/
  | v6 (ip : Ipv6) (scope : UInt32) (port : UInt16)
  deriving DecidableEq, Repr

namespace SocketAddress

/-- The address without port and scope. -/
def ip : SocketAddress → IpAddress
  | v4 ip _ => .v4 ip
  | v6 ip _ _ => .v6 ip

/-- The port. -/
def port : SocketAddress → UInt16
  | v4 _ port => port
  | v6 _ _ port => port

/-- The address that an address without scope and a port make. -/
def ofParts : IpAddress → UInt16 → SocketAddress
  | .v4 ip, port => v4 ip port
  | .v6 ip, port => v6 ip 0 port

end SocketAddress

end ConnectorLifecycle
