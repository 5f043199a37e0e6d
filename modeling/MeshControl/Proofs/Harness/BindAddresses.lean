import Mathlib.Data.List.Basic
import MeshControl.Proofs.Harness.Dialing
import MeshControl.Proofs.Net.Grammar
import MeshControl.Server.Construction

/-!
Addresses that a server can be configured with, read by a harness.

A server reads an address to bind it, and a harness reads the same text to publish it. The two readers
have little in common: one of them knows the whole syntax, and the other one cuts off the port and asks
whether the rest is an address of the Internet Protocol. An accepted text is therefore taken apart once,
by its pieces, and each piece is followed into the other reader. What is cut off is the same in both.
Only the scope makes a difference, because it belongs to the address for a server and to the host for a
harness; a host with a scope is no address, and so it is never taken for the machine's own.

Main statement: `resolve_bindAddress`.
-/

namespace MeshControl.Harness.Endpoint

open Net

/-! ## Hosts -/

/-- The addresses that are folded into the name of the machine: the wildcard and the loopback
addresses of each family. -/
def IsFolded : IpAddress → Prop
  | .v4 ip => ip.octets = [0, 0, 0, 0] ∨
      ∃ second third fourth, ip.octets = [127, second, third, fourth]
  | .v6 ip => ip.groups = [0, 0, 0, 0, 0, 0, 0, 0] ∨ ip.groups = [0, 0, 0, 0, 0, 0, 0, 1]

theorem isFolded_v4_iff {ip : Ipv4} :
    ip.isWildcard = true ∨ ip.isLoopback = true ↔ IsFolded (.v4 ip) := by
  rcases ip with ⟨octets, length⟩
  rcases List.length_eq_four.mp length with ⟨first, second, third, fourth, rfl⟩
  simp [IsFolded, Ipv4.isWildcard, Ipv4.isLoopback]

theorem isFolded_v6_iff {ip : Ipv6} :
    ip.isWildcard = true ∨ ip.isLoopback = true ↔ IsFolded (.v6 ip) := by
  rcases ip with ⟨groups, length⟩
  match groups, length with
  | [a, b, c, d, e, f, g, h], _ => simp [IsFolded, Ipv6.isWildcard, Ipv6.isLoopback]

theorem isFolded_iff {ip : IpAddress} :
    (ip.isWildcard || ip.isLoopback) = true ↔ IsFolded ip := by
  rw [Bool.or_eq_true]
  cases ip with
  | v4 ip => exact isFolded_v4_iff
  | v6 ip => exact isFolded_v6_iff

/-- An address that is kept is not written like the name of the machine. -/
theorem clientHost_eq_localHost_iff {host : List Char} {ip : IpAddress}
    (read : IpAddress.read host = some ip) (kept : keptHost host ip ≠ localHost.toList) :
    clientHost host = localHost.toList ↔ IsFolded ip := by
  rw [clientHost_of_read read, ← isFolded_iff]
  split
  case isTrue folded => exact iff_of_true rfl folded
  case isFalse other => exact iff_of_false kept other

theorem clientHost_ipv4_iff {host : List Char} {ip : Ipv4} (read : Ipv4.read host = some ip) :
    clientHost host = localHost.toList ↔ IsFolded (.v4 ip) := by
  have isIp : IsIpv4 host := isSome_readIpv4_iff.mp (Option.isSome_of_eq_some read)
  have readIp : IpAddress.read host = some (.v4 ip) := by rw [IpAddress.read, read]
  apply clientHost_eq_localHost_iff readIp
  intro same
  have letter : 'l' ∉ host := isIp.not_mem (by decide) (by decide)
  rw [show host = localHost.toList from same] at letter
  exact letter (by decide)

theorem clientHost_ipv6_iff {host : List Char} {ip : Ipv6} (read : Ipv6.read host = some ip) :
    clientHost host = localHost.toList ↔ IsFolded (.v6 ip) := by
  apply clientHost_eq_localHost_iff (IpAddress.read_of_ipv6 read)
  intro same
  cases same

/-- A host with a scope is published as it stands. -/
theorem clientHost_of_scope {host : List Char} (marked : '%' ∈ host) :
    clientHost host = host := by
  have noIpv4 : Ipv4.read host = none := Ipv4.read_of_mem marked (by decide) (by decide)
  have noIpv6 : Ipv6.read host = none := by
    cases read : Ipv6.read host with
    | none => rfl
    | some ip =>
        have isIp : IsIpv6 host := isSome_readIpv6_iff.mp (Option.isSome_of_eq_some read)
        exact absurd marked (isIp.not_mem (by decide) (by decide) (by decide))
  have filled : host.isEmpty = false := List.isEmpty_eq_false_iff.mpr (List.ne_nil_of_mem marked)
  rw [clientHost, filled, IpAddress.read, noIpv4, noIpv6]
  rfl

/-- What stands between the brackets is the machine's own if it is an address alone, and the machine's
own address. -/
theorem clientHost_inside_iff {inside : List Char} {ip : Ipv6} {scope : Scope}
    (read : SocketAddress.readScoped inside = some (ip, scope)) :
    clientHost inside = localHost.toList ↔ IsFolded (.v6 ip) ∧ '%' ∉ inside := by
  by_cases marked : '%' ∈ inside
  · have other : inside ≠ localHost.toList := by
      rintro rfl
      exact absurd marked (by decide)
    rw [clientHost_of_scope marked]
    exact iff_of_false other fun both => both.2 marked
  · rw [SocketAddress.readScoped, SocketAddress.splitAtFirst_of_not_mem marked] at read
    rcases Option.map_eq_some_iff.mp read with ⟨inner, readIp, same⟩
    cases same
    rw [clientHost_ipv6_iff readIp]
    exact (and_iff_left marked).symm

/-! ## Texts -/

/-- An accepted text is cut at the same place by both readers, and its host is published under the
name of the machine if it is the machine's own and has no scope. -/
theorem exists_cut {text : List Char} {address : SocketAddress}
    (found : SocketAddress.read text = some address) :
    ∃ host digits, splitHostPort text = .ok (host, digits) ∧
      Text.readBounded 65536 digits = some address.port ∧
      (clientHost host = localHost.toList ↔ IsFolded address.ip ∧ '%' ∉ text) := by
  rcases SocketAddress.read_cases found with ⟨host, digits, ip, port, rfl, readIp, readPort, rfl⟩ |
    ⟨inside, digits, ip, scope, port, rfl, readInside, readPort, rfl⟩
  · have isIp : IsIpv4 host := isSome_readIpv4_iff.mp (Option.isSome_of_eq_some readIp)
    have number : IsNumber 65536 digits :=
      isSome_readNumber_iff.mp (Option.isSome_of_eq_some readPort)
    have clear {mark : Char} (noDigit : mark.isDigit = false) (noDot : mark ≠ '.')
        (noColon : mark ≠ ':') : mark ∉ host ++ ':' :: digits := by
      simp only [List.mem_append, List.mem_cons, not_or]
      exact ⟨isIp.not_mem noDigit noDot, noColon, not_mem_of_isDigit number.isDigit noDigit⟩
    have filled : digits ≠ [] := by
      rintro rfl
      cases readPort
    refine ⟨host, digits, splitHostPort_plain (clear (by decide) (by decide) (by decide))
      (isIp.not_mem (by decide) (by decide)) (not_mem_of_isDigit number.isDigit (by decide)) filled,
      readPort, ?_⟩
    rw [clientHost_ipv4_iff readIp]
    exact (and_iff_left (clear (by decide) (by decide) (by decide))).symm
  · have isInside : SocketAddress.IsScoped inside :=
      SocketAddress.isSome_readScoped_iff.mp (Option.isSome_of_eq_some readInside)
    have number : IsNumber 65536 digits :=
      isSome_readNumber_iff.mp (Option.isSome_of_eq_some readPort)
    have unmarked : '%' ∉ digits := not_mem_of_isDigit number.isDigit (by decide)
    refine ⟨inside, digits, splitHostPort_bracketed isInside.bracket_not_mem digits, readPort, ?_⟩
    rw [clientHost_inside_iff readInside]
    simp [unmarked]

/-- The endpoint of an accepted text has its port, which must not be zero. -/
theorem resolve_of_cut {text : String} {host digits : List Char} {port : Port}
    (split : splitHostPort text.toList = .ok (host, digits))
    (read : Text.readBounded 65536 digits = some port) (listener : Listener) :
    resolve listener text =
      if port = 0 then .error (.addressFormat listener text .zeroPort)
      else .ok ⟨String.ofList (clientHost host), port⟩ := by
  rw [resolve, ofBound_eq split, readPort_of_readBounded read]
  split <;> rfl

/-- A server and a harness agree on addresses.

Whatever text a server accepts as the address of a listener, a harness takes it for the address of an
endpoint, unless its port is zero. Both then read the same port. The endpoint has the name of the
machine for a host exactly if the address is a wildcard or a loopback address of its family and no
scope is written. -/
theorem resolve_bindAddress {config : Config} {site : Listener} {address : SocketAddress}
    (accepted : Server.readAddress config site = .ok address) (listener : Listener) :
    let text := config.bindAddress.get site
    ((∃ endpoint, resolve listener text = .ok endpoint) ↔ address.port ≠ 0) ∧
    (address.port = 0 →
      resolve listener text = .error (.addressFormat listener text .zeroPort)) ∧
    ∀ endpoint, resolve listener text = .ok endpoint →
      endpoint.port = address.port ∧
      (endpoint.host = localHost ↔ IsFolded address.ip ∧ '%' ∉ text.toList) := by
  intro text
  have found : SocketAddress.read text.toList = some address := by
    simp only [Server.readAddress] at accepted
    split at accepted
    case h_1 read =>
      cases accepted
      exact read
    case h_2 => cases accepted
  rcases exists_cut found with ⟨host, digits, split, read, published⟩
  rw [resolve_of_cut split read listener]
  by_cases unbound : address.port = 0
  · simp [unbound]
  · rw [if_neg unbound]
    refine ⟨iff_of_true ⟨_, rfl⟩ unbound, fun zero => absurd zero unbound, ?_⟩
    rintro _ ⟨⟩
    refine ⟨rfl, ?_⟩
    rw [← published, localHost, ← String.toList_inj, String.toList_ofList]

/-- A configuration that differs from the defaults in all three addresses. -/
def scattered : Config :=
  ⟨"default", ⟨"127.1.2.3:0080", "[0:0::0.0.0.1%0]:15010", "[::]:0"⟩, none, "/certs", ["Mock"], 1000,
    4096⟩

/-- A loopback address is published under the name of the machine, with its port, but not if a scope is
written behind it, even if the scope is none. A wildcard address without a port is not published. -/
theorem resolve_bindAddress_scattered :
    (Server.readAddress scattered .http = .ok (.v4 ⟨[127, 1, 2, 3], rfl⟩ 80) ∧
      ∃ endpoint, resolve .http "127.1.2.3:0080" = .ok endpoint ∧ endpoint.port = 80 ∧
        endpoint.host = localHost) ∧
    (Server.readAddress scattered .grpc = .ok (.v6 Ipv6.loopback 0 15010) ∧
      ∃ endpoint, resolve .grpc "[0:0::0.0.0.1%0]:15010" = .ok endpoint ∧ endpoint.port = 15010 ∧
        endpoint.host ≠ localHost) ∧
    ∃ address, Server.readAddress scattered .secureGrpc = .ok address ∧ address.port = 0 ∧
      ¬ ∃ endpoint, resolve .secureGrpc "[::]:0" = .ok endpoint := by
  have first : Server.readAddress scattered .http = .ok (.v4 ⟨[127, 1, 2, 3], rfl⟩ 80) := by
    decide +kernel
  have second : Server.readAddress scattered .grpc = .ok (.v6 Ipv6.loopback 0 15010) := by
    decide +kernel
  have third : Server.readAddress scattered .secureGrpc =
      .ok (.v6 ⟨[0, 0, 0, 0, 0, 0, 0, 0], rfl⟩ 0 0) := by
    decide +kernel
  refine ⟨⟨first, ?_⟩, ⟨second, ?_⟩, _, third, rfl, ?_⟩
  · rcases resolve_bindAddress first .http with ⟨bound, -, endpoints⟩
    rcases bound.mpr (by decide) with ⟨endpoint, resolved⟩
    rcases endpoints endpoint resolved with ⟨port, host⟩
    exact ⟨endpoint, resolved, port, host.mpr ⟨.inr ⟨1, 2, 3, rfl⟩, by decide⟩⟩
  · rcases resolve_bindAddress second .grpc with ⟨bound, -, endpoints⟩
    rcases bound.mpr (by decide) with ⟨endpoint, resolved⟩
    rcases endpoints endpoint resolved with ⟨port, host⟩
    exact ⟨endpoint, resolved, port, fun same => (host.mp same).2 (by decide)⟩
  · exact mt (resolve_bindAddress third .secureGrpc).1.mp (by decide)

end MeshControl.Harness.Endpoint
