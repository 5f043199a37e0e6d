import MeshControl.Net.Ip.Printer
import MeshControl.Net.Ip.Reader

/-!
Socket addresses: an address of the Internet Protocol and a port.

An IPv6 address stands in brackets, and may carry a scope, the number of an interface; scope zero
is the same as none. Ports and scopes may be written with leading zeros, but without a sign.
-/

namespace MeshControl.Net

/-- The number of an interface, or zero for none. -/
abbrev Scope := Fin 4294967296

/-- A scope has thirty-two bits. -/
instance scope_neZero : @NeZero Nat Zero.ofOfNat0 4294967296 := ⟨by decide⟩

inductive SocketAddress where
  | v4 (ip : Ipv4) (port : Port)
  | v6 (ip : Ipv6) (scope : Scope) (port : Port)
deriving DecidableEq

namespace SocketAddress

def ip : SocketAddress → IpAddress
  | v4 ip _ => .v4 ip
  | v6 ip _ _ => .v6 ip

def port : SocketAddress → Port
  | v4 _ port => port
  | v6 _ _ port => port

@[simp]
theorem ip_v4 (inner : Ipv4) (number : Port) : (v4 inner number).ip = .v4 inner := rfl

@[simp]
theorem ip_v6 (inner : Ipv6) (interface : Scope) (number : Port) :
    (v6 inner interface number).ip = .v6 inner := rfl

@[simp]
theorem port_v4 (inner : Ipv4) (number : Port) : (v4 inner number).port = number := rfl

@[simp]
theorem port_v6 (inner : Ipv6) (interface : Scope) (number : Port) :
    (v6 inner interface number).port = number := rfl

/-- The scope of an address; only IPv6 has any. -/
def scope : SocketAddress → Scope
  | v4 _ _ => 0
  | v6 _ scope _ => scope

def withPort (port : Port) : SocketAddress → SocketAddress
  | v4 ip _ => v4 ip port
  | v6 ip scope _ => v6 ip scope port

/-! ## Text -/

/-- The parts of a text before and after the first occurrence of a character. -/
def splitAtFirst (mark : Char) (text : List Char) : Option (List Char × List Char) :=
  match text.span (· ≠ mark) with
  | (before, _ :: after) => some (before, after)
  | (_, []) => none

/-- The parts of a text before and after the last occurrence of a character. -/
def splitAtLast (mark : Char) (text : List Char) : Option (List Char × List Char) :=
  (splitAtFirst mark text.reverse).map fun (after, before) => (before.reverse, after.reverse)

/-- An IPv6 address and its scope, as they stand between brackets. -/
def readScoped (text : List Char) : Option (Ipv6 × Scope) :=
  match splitAtFirst '%' text with
  | none => (Ipv6.read text).map (·, 0)
  | some (ip, scope) => do return (← Ipv6.read ip, ← Text.readBounded 4294967296 scope)

/-- A socket address: `a.b.c.d:port`, `[group:…:group]:port` or `[group:…:group%scope]:port`. -/
def read : List Char → Option SocketAddress
  | '[' :: text => do
    let (inside, after) ← splitAtFirst ']' text
    let (ip, scope) ← readScoped inside
    match after with
    | ':' :: port => return v6 ip scope (← Text.readBounded 65536 port)
    | _ => none
  | text => do
    let (ip, port) ← splitAtLast ':' text
    return v4 (← Ipv4.read ip) (← Text.readBounded 65536 port)

def ofString? (text : String) : Option SocketAddress :=
  read text.toList

/-- The one text of a socket address. -/
def write : SocketAddress → List Char
  | v4 ip port => ip.write ++ ':' :: Text.decimal port.val
  | v6 ip scope port =>
    let suffix := if scope = 0 then [] else '%' :: Text.decimal scope.val
    '[' :: (ip.write ++ suffix ++ [']', ':'] ++ Text.decimal port.val)

def text (address : SocketAddress) : String :=
  String.ofList address.write

/-! ## Binding -/

/-- The same address without its scope, which matters only while it is bound. -/
def withoutScope : SocketAddress → SocketAddress
  | v4 ip port => v4 ip port
  | v6 ip _ port => v6 ip 0 port

/-- Whether a wildcard address takes up the other address as well: its own family, and the IPv6
wildcard also takes IPv4. -/
def covers (wildcard other : IpAddress) : Bool :=
  match wildcard, other with
  | .v4 ip, .v4 _ => ip.isWildcard
  | .v4 _, .v6 _ => false
  | .v6 ip, _ => ip.isWildcard

/-- Whether two listeners on these addresses would be in each other's way. -/
def overlaps (first second : SocketAddress) : Bool :=
  let ip := first.ip.canonical
  let other := second.ip.canonical
  first.port == second.port && (ip == other || covers ip other || covers other ip)

end SocketAddress

end MeshControl.Net
