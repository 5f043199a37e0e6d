import MeshControl.Proofs.Harness.AddressGrammar
import MeshControl.Proofs.Harness.BindAddresses

/-!
One published address for all spellings of an IPv6 address.

A listener may report an IPv6 address in any of its spellings, next to a port that has spellings of its
own. What is published does not show which of them it was. It shows the address in its one text, unless
nobody can dial that address or the machine alone can, and a text that is read back is the text of one
address only.

Main statement: `resolve_canonical`.
-/

namespace MeshControl.Harness.Endpoint

open Net

/-- A reported text is made of a spelling of an IPv6 address and a spelling of a port. -/
def Denotes (text : List Char) (ip : Ipv6) (port : Port) : Prop :=
  ∃ host digits, IsJoined host digits text ∧ Spells host ip ∧ Text.IsUnsigned digits port.val

/-! ## Hosts -/

/-- A host is published like the one text of the address that it is a spelling of. -/
theorem clientHost_of_spells {host : List Char} {ip : Ipv6} (spelled : Spells host ip) :
    clientHost host = clientHost ip.write := by
  have read := IpAddress.read_of_ipv6 (Ipv6.read_eq_some_iff.mpr spelled)
  rw [clientHost_of_read read, clientHost_of_read (IpAddress.read_of_ipv6 ip.read_write)]
  rfl

theorem clientHost_write_of_ne {ip : Ipv6} (other : clientHost ip.write ≠ localHost.toList) :
    clientHost ip.write = literal (.v6 ip) := by
  have published := clientHost_write (.v6 ip)
  by_cases folded : ((IpAddress.v6 ip).isWildcard || (IpAddress.v6 ip).isLoopback) = true
  · rw [if_pos folded] at published
    exact absurd published other
  · rw [if_neg folded] at published
    exact published

/-- An address that was written in brackets is known from its text. -/
theorem literal_injective {ip ip' : Ipv6} (same : literal (.v6 ip) = literal (.v6 ip')) :
    ip = ip' := by
  have inside := List.append_cancel_right (List.cons.inj same).2
  have read := ip.read_write
  rw [inside, ip'.read_write] at read
  exact (Option.some.inj read).symm

/-! ## Addresses -/

/-- The host of a published address ends at its last colon. -/
theorem address_injective {endpoint endpoint' : Endpoint}
    (same : endpoint.address = endpoint'.address) : endpoint = endpoint' := by
  have cut := SocketAddress.splitAtLast_port endpoint.host.toList endpoint.port
  rw [← toList_address, same, toList_address, SocketAddress.splitAtLast_port] at cut
  simp only [Option.some.injEq, Prod.mk.injEq] at cut
  have read := Text.readBounded_decimal endpoint.port
  rw [← cut.2, Text.readBounded_decimal] at read
  cases endpoint
  cases endpoint'
  cases String.toList_inj.mp cut.1
  cases read
  rfl

/-- What is published depends on what is denoted alone. -/
theorem Denotes.resolve_eq_ok_iff {listener : Listener} {bound : String} {ip : Ipv6} {port : Port}
    {endpoint : Endpoint} (denotes : Denotes bound.toList ip port) :
    resolve listener bound = .ok endpoint ↔
      port ≠ 0 ∧ endpoint = ⟨String.ofList (clientHost ip.write), port⟩ := by
  rcases denotes with ⟨host, digits, joined, spelled, number⟩
  have split := joined.splitHostPort (joined.not_isMismarked number)
  rw [Endpoint.resolve_eq_ok_iff, ofBound_eq split, clientHost_of_spells spelled, readPort,
    Text.readUnsigned_eq_some_iff.mpr number]
  by_cases zero : port = 0
  · simp [zero]
  · simp [zero, eq_comm]

/-- A spelling of an IPv6 address and of a port is published unless the port is zero. Two spellings of
one address and one port are published as the same endpoint, and two that are published under the same
address, other than that of the machine itself, are spellings of one address and one port. The address
that is published holds the text of the address that was bound, and this text is read back as that
address. Only the wildcard and the loopback address are published under the name of the machine. -/
theorem resolve_canonical (listener listener' : Listener) {bound bound' : String}
    {ip ip' : Ipv6} {port port' : Port} (denotes : Denotes bound.toList ip port)
    (denotes' : Denotes bound'.toList ip' port') :
    ((∃ endpoint, resolve listener bound = .ok endpoint) ↔ port ≠ 0) ∧
    ∀ endpoint endpoint', resolve listener bound = .ok endpoint →
      resolve listener' bound' = .ok endpoint' →
      (ip = ip' ∧ port = port' → endpoint = endpoint') ∧
      (endpoint.address = endpoint'.address → endpoint.host ≠ localHost →
        ip = ip' ∧ port = port') ∧
      (endpoint.host ≠ localHost → ∃ inside,
        endpoint.address.toList = '[' :: inside ++ ']' :: ':' :: Text.decimal port.val ∧
          Ipv6.read inside = some ip) ∧
      (endpoint.host = localHost ↔ IsFolded (.v6 ip)) := by
  have named {ip : Ipv6} : String.ofList (clientHost ip.write) = localHost ↔
      clientHost ip.write = localHost.toList := by
    rw [← String.toList_inj, String.toList_ofList]
  constructor
  · simp only [denotes.resolve_eq_ok_iff, exists_and_left, exists_eq, and_true]
  intro endpoint endpoint' resolved resolved'
  obtain ⟨-, rfl⟩ := denotes.resolve_eq_ok_iff.mp resolved
  obtain ⟨-, rfl⟩ := denotes'.resolve_eq_ok_iff.mp resolved'
  refine ⟨?_, ?_, ?_, named.trans (clientHost_ipv6_iff ip.read_write)⟩
  · rintro ⟨rfl, rfl⟩
    rfl
  · intro same other
    have endpoints := address_injective same
    have hosts : clientHost ip.write = clientHost ip'.write :=
      String.ofList_injective (congrArg Endpoint.host endpoints)
    have other' : clientHost ip'.write ≠ localHost.toList := hosts ▸ mt named.mpr other
    rw [clientHost_write_of_ne (mt named.mpr other), clientHost_write_of_ne other'] at hosts
    exact ⟨literal_injective hosts, congrArg Endpoint.port endpoints⟩
  · intro other
    refine ⟨ip.write, ?_, ip.read_write⟩
    rw [toList_address, String.toList_ofList, clientHost_write_of_ne (mt named.mpr other)]
    simp [literal]

/-- Letters of either case, zeros, an IPv4 address in the last place and a port with a sign. None of it
is left in the published address, which is read back as the address that was bound. -/
theorem resolve_canonical_respelled :
    Denotes "[2001:0DB8:0::0.0.0.1]:+08080".toList ⟨[0x2001, 0xdb8, 0, 0, 0, 0, 0, 1], rfl⟩ 8080 ∧
      Denotes "[2001:db8::1]:8080".toList ⟨[0x2001, 0xdb8, 0, 0, 0, 0, 0, 1], rfl⟩ 8080 ∧
      resolve .grpc "[2001:0DB8:0::0.0.0.1]:+08080" = .ok ⟨"[2001:db8::1]", 8080⟩ ∧
      resolve .http "[2001:db8::1]:8080" = .ok ⟨"[2001:db8::1]", 8080⟩ ∧
      "[2001:db8::1]" ≠ localHost ∧
      ∃ inside, (Endpoint.address ⟨"[2001:db8::1]", 8080⟩).toList =
          '[' :: inside ++ ']' :: ':' :: Text.decimal 8080 ∧
        Ipv6.read inside = some ⟨[0x2001, 0xdb8, 0, 0, 0, 0, 0, 1], rfl⟩ := by
  have denotes : Denotes "[2001:0DB8:0::0.0.0.1]:+08080".toList
      ⟨[0x2001, 0xdb8, 0, 0, 0, 0, 0, 1], rfl⟩ 8080 :=
    ⟨"2001:0DB8:0::0.0.0.1".toList, "+08080".toList, .bracketed (by decide),
      Ipv6.read_eq_some_iff.mp (by decide +kernel), Text.readUnsigned_eq_some_iff.mp (by decide)⟩
  have denotes' : Denotes "[2001:db8::1]:8080".toList
      ⟨[0x2001, 0xdb8, 0, 0, 0, 0, 0, 1], rfl⟩ 8080 :=
    ⟨"2001:db8::1".toList, "8080".toList, .bracketed (by decide),
      Ipv6.read_eq_some_iff.mp (by decide +kernel), Text.readUnsigned_eq_some_iff.mp (by decide)⟩
  have resolved : resolve .grpc "[2001:0DB8:0::0.0.0.1]:+08080" = .ok ⟨"[2001:db8::1]", 8080⟩ := by
    decide +kernel
  have resolved' : resolve .http "[2001:db8::1]:8080" = .ok ⟨"[2001:db8::1]", 8080⟩ := by
    decide +kernel
  have other : "[2001:db8::1]" ≠ localHost := by decide
  rcases (resolve_canonical .grpc .http denotes denotes').2 _ _ resolved resolved' with
    ⟨-, -, readBack, -⟩
  exact ⟨denotes, denotes', resolved, resolved', other, readBack other⟩

end MeshControl.Harness.Endpoint
