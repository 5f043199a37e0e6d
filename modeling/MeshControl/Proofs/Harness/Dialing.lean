import MeshControl.Harness.Endpoint
import MeshControl.Proofs.Net.SocketText

/-!
Whether a client that dials a published address reaches the listener.

A client takes an address apart, looks up the host if it is a name, and connects to what it finds; a
listener takes the connections to its own address, or all that a wildcard covers. The addresses that
a client can dial as they stand are published as they stand, and so the text that is dialled is read
back as the address that was bound. The others are published as `localhost`, which stands for two
addresses only. Every wildcard covers one of those two, but a loopback address is reached only if it
is one of them.

Main statement: `resolve_reaches_iff`.
-/

namespace MeshControl

namespace Net

/-! ## Clients and listeners -/

namespace SocketAddress

/-- A port of an address, without a scope. -/
def ofIp (port : Port) : IpAddress → SocketAddress
  | .v4 ip => v4 ip port
  | .v6 ip => v6 ip 0 port

/-- Whether a listener takes the connections to an address: to the one it is bound to, or to any
that its wildcard covers. -/
def accepts (bound target : SocketAddress) : Bool :=
  bound.port == target.port &&
    (bound.ip.canonical == target.ip.canonical ||
      covers bound.ip.canonical target.ip.canonical)

/-- What a client connects to that dials an address: the address itself if it is one, and otherwise
the addresses that the host is a name for. -/
def dialled (names : String → List IpAddress) (address : String) : List SocketAddress :=
  match ofString? address with
  | some target => [target]
  | none =>
    match splitAtLast ':' address.toList with
    | none => []
    | some (host, port) =>
      match Text.readBounded 65536 port with
      | none => []
      | some port => (names (String.ofList host)).map (ofIp port)

theorem accepts_self (address : SocketAddress) : address.accepts address = true := by
  simp [accepts]

end SocketAddress

/-! ## Wildcards and loopback addresses -/

theorem Ipv4.eq_of_isWildcard {address : Ipv4} (wildcard : address.isWildcard = true) :
    address = ⟨[0, 0, 0, 0], rfl⟩ := by
  have zeros := eq_replicate_of_all wildcard
  rw [address.length_octets] at zeros
  cases address
  cases zeros
  rfl

theorem Ipv6.eq_of_isWildcard {address : Ipv6} (wildcard : address.isWildcard = true) :
    address = ⟨[0, 0, 0, 0, 0, 0, 0, 0], rfl⟩ := by
  have zeros := eq_replicate_of_all wildcard
  rw [address.length_groups] at zeros
  cases address
  cases zeros
  rfl

theorem Ipv6.eq_of_isLoopback {address : Ipv6} (loopback : address.isLoopback = true) :
    address = Ipv6.loopback := by
  have groups : address.groups = [0, 0, 0, 0, 0, 0, 0, 1] := beq_iff_eq.mp loopback
  cases address
  cases groups
  rfl

/-- A wildcard covers one of the two addresses that a machine has for itself, and a loopback address
takes connections to them only if it is one of them. -/
theorem SocketAddress.accepts_loopback_iff {address : SocketAddress}
    (folded : address.ip.isWildcard = true ∨ address.ip.isLoopback = true) :
    (address.accepts (v4 Ipv4.loopback address.port) = true ∨
        address.accepts (v6 Ipv6.loopback 0 address.port) = true) ↔
      (address.ip.isLoopback = true →
        address.ip = .v4 Ipv4.loopback ∨ address.ip = .v6 Ipv6.loopback) := by
  cases address with
  | v4 ip port =>
    by_cases wildcard : ip.isWildcard = true
    · obtain rfl := Ipv4.eq_of_isWildcard wildcard
      simp [accepts, covers, IpAddress.canonical, IpAddress.isLoopback, Ipv4.isLoopback,
        Ipv4.isWildcard]
    · have loopback : (IpAddress.v4 ip).isLoopback = true := folded.resolve_left wildcard
      have specific : ip.isWildcard = false := Bool.not_eq_true _ ▸ wildcard
      have unmapped : Ipv6.loopback.mapped = none := by decide
      simp [accepts, covers, IpAddress.canonical, specific, unmapped, loopback]
  | v6 ip scope port =>
    rcases folded with wildcard | loopback
    · obtain rfl := Ipv6.eq_of_isWildcard wildcard
      simp [accepts, covers, IpAddress.canonical, IpAddress.isLoopback, Ipv6.isLoopback,
        Ipv6.isWildcard, Ipv6.mapped]
    · obtain rfl := Ipv6.eq_of_isLoopback loopback
      simp [accepts]

end Net

namespace Harness.Endpoint

open Net

/-! ## The published host -/

/-- An address as it stands in front of a port. -/
def literal : IpAddress → List Char
  | .v4 ip => ip.write
  | .v6 ip => '[' :: (ip.write ++ [']'])

/-- Whether a client that dials an endpoint is taken by a listener. -/
def reaches (names : String → List IpAddress) (endpoint : Endpoint) (bound : SocketAddress) :
    Bool :=
  (SocketAddress.dialled names endpoint.address).any bound.accepts

/-- The host of a bound address as it stands between the marks of its text. -/
def writtenHost : SocketAddress → List Char
  | .v4 ip _ => ip.write
  | .v6 ip scope _ => ip.write ++ SocketAddress.writeScope scope

/-- A host without a colon is cut off at the colon behind it, if no bracket opens the text. -/
theorem splitHostPort_unopened {host digits : List Char}
    (unopened : (host ++ ':' :: digits).head? ≠ some '[') (single : ':' ∉ host)
    (uncut : ':' ∉ digits) (filled : digits ≠ []) :
    splitHostPort (host ++ ':' :: digits) = .ok (host, digits) := by
  unfold splitHostPort
  split
  case h_1 opened =>
    rw [opened] at unopened
    exact absurd rfl unopened
  case h_2 => simp [SocketAddress.splitAtLast_append uncut, single, filled]

/-- A host without a mark of its own is cut off at the colon. -/
theorem splitHostPort_plain {host digits : List Char} (unopened : '[' ∉ host ++ ':' :: digits)
    (single : ':' ∉ host) (uncut : ':' ∉ digits) (filled : digits ≠ []) :
    splitHostPort (host ++ ':' :: digits) = .ok (host, digits) :=
  splitHostPort_unopened (mt List.mem_of_mem_head? unopened) single uncut filled

theorem splitHostPort_bracketed {inside : List Char} (closed : ']' ∉ inside)
    (digits : List Char) :
    splitHostPort ('[' :: inside ++ ']' :: ':' :: digits) = .ok (inside, digits) := by
  simp only [splitHostPort, List.cons_append, SocketAddress.splitAtFirst_append closed]

theorem splitHostPort_write (address : SocketAddress) :
    splitHostPort address.write = .ok (writtenHost address, Text.decimal address.port.val) := by
  cases address with
  | v4 ip port =>
    have plain : '[' ∉ ip.write := Ipv4.not_mem_write (by decide) (by decide)
    exact splitHostPort_plain (SocketAddress.opening_not_mem plain port)
      (Ipv4.not_mem_write (by decide) (by decide)) (Text.not_mem_decimal (by decide))
      Nat.toDigits_ne_nil
  | v6 ip scope port =>
    rw [SocketAddress.write_v6]
    exact splitHostPort_bracketed (SocketAddress.bracket_not_mem ip scope) _

/-- A port with any number of leading zeros is read as it is for a socket address, but zero is no
port of an endpoint. -/
theorem readPort_of_readBounded {digits : List Char} {port : Port}
    (read : Text.readBounded 65536 digits = some port) :
    readPort digits = if port = 0 then .error .zeroPort else .ok port := by
  rw [readPort, Text.readUnsigned_of_readBounded read]

/-- The parts of a reported address become the parts of its endpoint. -/
theorem ofBound_eq {bound host digits : List Char}
    (split : splitHostPort bound = .ok (host, digits)) :
    ofBound bound = mk (String.ofList (clientHost host)) <$> readPort digits := by
  rw [ofBound, split]
  rfl

/-- Whatever a listener can be bound to is published. -/
theorem resolve_text (listener : Listener) {address : SocketAddress} (bound : address.port ≠ 0) :
    resolve listener address.text =
      .ok ⟨String.ofList (clientHost (writtenHost address)), address.port⟩ := by
  rw [resolve, SocketAddress.text, String.toList_ofList, ofBound_eq (splitHostPort_write address),
    readPort_of_readBounded (Text.readBounded_decimal address.port), if_neg bound]
  rfl

/-- The host that is published for an address other than the machine's own: an IPv4 address as it
stands, and an IPv6 address in its one text. -/
def keptHost (host : List Char) : IpAddress → List Char
  | .v4 _ => host
  | .v6 ip => literal (.v6 ip)

theorem clientHost_of_read {host : List Char} {ip : IpAddress}
    (read : IpAddress.read host = some ip) :
    clientHost host =
      if ip.isWildcard || ip.isLoopback then localHost.toList else keptHost host ip := by
  have filled : host.isEmpty = false := by
    cases host with
    | nil =>
      have nothing : IpAddress.read [] = none := by decide
      rw [nothing] at read
      cases read
    | cons => rfl
  rw [clientHost, filled, read]
  cases ip <;> rfl

theorem clientHost_write (ip : IpAddress) :
    clientHost ip.write =
      if ip.isWildcard || ip.isLoopback then localHost.toList else literal ip := by
  rw [clientHost_of_read ip.read_write]
  cases ip <;> rfl

/-! ## What is dialled -/

theorem toList_address (endpoint : Endpoint) :
    endpoint.address.toList = endpoint.host.toList ++ ':' :: Text.decimal endpoint.port.val := by
  simp [address, Text.decimalText]

/-- An address that can be dialled as it stands is published as it stands. -/
theorem dialled_literal (names : String → List IpAddress) {address : SocketAddress}
    (unscoped : address.scope = 0) :
    SocketAddress.dialled names
      (Endpoint.address ⟨String.ofList (literal address.ip), address.port⟩) = [address] := by
  have same : Endpoint.address ⟨String.ofList (literal address.ip), address.port⟩ =
      address.text := by
    apply String.toList_inj.mp
    cases address with
    | v4 ip port =>
      simp [Endpoint.address, SocketAddress.text, SocketAddress.write, literal, Text.decimalText]
    | v6 ip scope port =>
      obtain rfl : scope = 0 := unscoped
      simp [Endpoint.address, SocketAddress.text, SocketAddress.write, literal, Text.decimalText]
  rw [same, SocketAddress.dialled, SocketAddress.ofString?_text]

/-- The name of the machine is no address, and so it is looked up. -/
theorem dialled_localHost (names : String → List IpAddress) (port : Port) :
    SocketAddress.dialled names (Endpoint.address ⟨localHost, port⟩) =
      (names localHost).map (SocketAddress.ofIp port) := by
  have text : (Endpoint.address ⟨localHost, port⟩).toList =
      localHost.toList ++ ':' :: Text.decimal port.val := by
    simp [Endpoint.address, Text.decimalText]
  have foreign : SocketAddress.ofString? (Endpoint.address ⟨localHost, port⟩) = none := by
    have plain : '[' ∉ localHost.toList := by decide
    have unread : Ipv4.read localHost.toList = none := by decide
    rw [SocketAddress.ofString?, text, SocketAddress.read_plain plain, unread, Option.map_none]
  simp [SocketAddress.dialled, foreign, text, SocketAddress.splitAtLast_port,
    Text.readBounded_decimal]

/-- Every address that a listener can be bound to is published, and unless it has a scope, a client
that dials what is published reaches the listener, except at the loopback addresses that the name of
the machine does not stand for. -/
theorem resolve_reaches_iff {names : String → List IpAddress}
    (known : ∀ ip, ip ∈ names localHost ↔ ip = .v4 Ipv4.loopback ∨ ip = .v6 Ipv6.loopback)
    (listener : Listener) {address : SocketAddress} (bound : address.port ≠ 0) :
    ∃ endpoint, resolve listener address.text = .ok endpoint ∧
      endpoint.port = address.port ∧
      (address.scope = 0 →
        endpoint.host = String.ofList
          (if address.ip.isWildcard || address.ip.isLoopback then localHost.toList
            else literal address.ip) ∧
        (reaches names endpoint address = true ↔
          (address.ip.isLoopback = true →
            address.ip = .v4 Ipv4.loopback ∨ address.ip = .v6 Ipv6.loopback))) := by
  refine ⟨_, resolve_text listener bound, rfl, ?_⟩
  intro unscoped
  have host : writtenHost address = address.ip.write := by
    cases address with
    | v4 ip port => rfl
    | v6 ip scope port =>
      obtain rfl : scope = 0 := unscoped
      exact List.append_nil _
  rw [host, clientHost_write]
  refine ⟨rfl, ?_⟩
  by_cases folded : (address.ip.isWildcard || address.ip.isLoopback) = true
  · rw [if_pos folded, String.ofList_toList, reaches, dialled_localHost,
      ← SocketAddress.accepts_loopback_iff (Bool.or_eq_true_iff.mp folded)]
    simp [known, or_and_right, exists_or, SocketAddress.ofIp]
  · obtain ⟨-, routable⟩ := not_or.mp (mt Bool.or_eq_true_iff.mpr folded)
    have taken : reaches names ⟨String.ofList (literal address.ip), address.port⟩ address =
        true := by
      rw [reaches, dialled_literal names unscoped, List.any_cons, address.accepts_self,
        Bool.true_or]
    rw [if_neg folded]
    exact iff_of_true taken fun loopback => absurd loopback routable

/-- A machine that knows no name but its own. -/
def ownNameOnly (host : String) : List IpAddress :=
  if host = localHost then [.v4 Ipv4.loopback, .v6 Ipv6.loopback] else []

theorem mem_ownNameOnly (ip : IpAddress) :
    ip ∈ ownNameOnly localHost ↔ ip = .v4 Ipv4.loopback ∨ ip = .v6 Ipv6.loopback := by
  simp [ownNameOnly]

/-- An IPv6 address that is neither a wildcard nor a loopback address. -/
def documentation : SocketAddress :=
  .v6 ⟨[0x2001, 0xdb8, 0, 0, 0, 0, 0, 1], rfl⟩ 0 8080

/-- It is published in brackets, and reached. -/
theorem resolve_reaches_iff_documentation :
    documentation.port ≠ 0 ∧ documentation.text = "[2001:db8::1]:8080" ∧
      ∃ endpoint, resolve .http documentation.text = .ok endpoint ∧
        endpoint.port = 8080 ∧ endpoint.host = "[2001:db8::1]" ∧
        reaches ownNameOnly endpoint documentation = true := by
  have bound : documentation.port ≠ 0 := by decide
  obtain ⟨endpoint, resolved, port, reached⟩ :=
    resolve_reaches_iff mem_ownNameOnly .http bound
  obtain ⟨host, reached⟩ := reached rfl
  refine ⟨bound, by decide +kernel, endpoint, resolved, port, ?_, ?_⟩
  · rw [host]
    decide +kernel
  · rw [reached]
    intro loopback
    cases loopback

/-- An address of the loopback network that is not the machine's own. -/
def secondLoopback : SocketAddress :=
  .v4 ⟨[127, 0, 0, 2], rfl⟩ 8080

/-- An address that is valid on the link with one number only. -/
def linkLocal : SocketAddress :=
  .v6 ⟨[0xfe80, 0, 0, 0, 0, 0, 0, 1], rfl⟩ 3 8080

/-- The name of the machine is published for addresses that it does not stand for, and an address
with a scope loses its brackets. -/
theorem published_without_reach :
    (secondLoopback.text = "127.0.0.2:8080" ∧
      resolve .http secondLoopback.text = .ok ⟨localHost, 8080⟩ ∧
      localHost ≠ "127.0.0.2" ∧ secondLoopback.ip.isWildcard = false ∧
      secondLoopback.ip ≠ .v4 Ipv4.loopback ∧ secondLoopback.ip ≠ .v6 Ipv6.loopback ∧
      reaches ownNameOnly ⟨localHost, 8080⟩ secondLoopback = false) ∧
    linkLocal.text = "[fe80::1%3]:8080" ∧
      resolve .http linkLocal.text = .ok ⟨"fe80::1%3", 8080⟩ ∧
      "fe80::1%3" ≠ localHost ∧ "fe80::1%3" ≠ "[fe80::1%3]" := by
  decide +kernel

end Harness.Endpoint

end MeshControl
