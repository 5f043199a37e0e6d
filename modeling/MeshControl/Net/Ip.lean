/-!
Addresses of the Internet Protocol, versions 4 and 6.

An address is its parts, eight bits or sixteen bits each, and their number is part of the type.
The two families are kept apart in text: an IPv4 address mapped into IPv6 is an IPv6 address, and
is neither a loopback nor a wildcard address of that family. Only the network takes it for IPv4.
-/

namespace MeshControl.Net

/-! ## Parts -/

/-- An octet has eight bits. -/
instance octet_neZero : @NeZero Nat Zero.ofOfNat0 256 := ⟨by decide⟩

/-- A port and a group have sixteen. -/
instance port_neZero : @NeZero Nat Zero.ofOfNat0 65536 := ⟨by decide⟩

abbrev Port := Fin 65536

/-! ## Addresses -/

/-- An IPv4 address: four octets. -/
structure Ipv4 where
  octets : List (Fin 256)
  length_octets : octets.length = 4
deriving DecidableEq

/-- An IPv6 address: eight groups. -/
structure Ipv6 where
  groups : List (Fin 65536)
  length_groups : groups.length = 8
deriving DecidableEq

namespace Ipv4

/-- The address under which every machine reaches itself. -/
def loopback : Ipv4 := ⟨[127, 0, 0, 1], rfl⟩

def isWildcard (address : Ipv4) : Bool :=
  address.octets.all (· == 0)

/-- An address that stays on the machine, whatever its last three octets. -/
def isLoopback (address : Ipv4) : Bool :=
  address.octets.head? == some 127

end Ipv4

namespace Ipv6

/-- The address under which every machine reaches itself. -/
def loopback : Ipv6 := ⟨[0, 0, 0, 0, 0, 0, 0, 1], rfl⟩

def isWildcard (address : Ipv6) : Bool :=
  address.groups.all (· == 0)

/-- The one address that stays on the machine. -/
def isLoopback (address : Ipv6) : Bool :=
  address.groups == [0, 0, 0, 0, 0, 0, 0, 1]

/-- An address that is valid on one link only: its first ten bits are those of `fe80`. -/
def isLinkLocal (address : Ipv6) : Bool :=
  address.groups.head?.any fun group => group.val / 64 == 0xfe80 / 64

/-- The address of a group of machines: its first eight bits are set. -/
def isMulticast (address : Ipv6) : Bool :=
  address.groups.head?.any fun group => group.val / 256 == 0xff

/-- The octets of an IPv4 address that is mapped into IPv6. -/
def mapped (address : Ipv6) : Option Ipv4 :=
  match address.groups with
  | [0, 0, 0, 0, 0, 0xffff, upper, lower] =>
    some ⟨[Fin.ofNat 256 (upper / 256), Fin.ofNat 256 upper, Fin.ofNat 256 (lower / 256),
      Fin.ofNat 256 lower], rfl⟩
  | _ => none

end Ipv6

inductive IpAddress where
  | v4 (address : Ipv4)
  | v6 (address : Ipv6)
deriving DecidableEq

namespace IpAddress

def isWildcard : IpAddress → Bool
  | v4 address => address.isWildcard
  | v6 address => address.isWildcard

/-- An address that stays on the machine. -/
def isLoopback : IpAddress → Bool
  | v4 address => address.isLoopback
  | v6 address => address.isLoopback

/-- The address as the network takes it: one that is mapped into IPv6 is an IPv4 address. -/
def canonical : IpAddress → IpAddress
  | v4 address => v4 address
  | v6 address =>
    match address.mapped with
    | some inner => v4 inner
    | none => v6 address

end IpAddress

end MeshControl.Net
