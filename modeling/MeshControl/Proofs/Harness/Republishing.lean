import MeshControl.Proofs.Harness.AddressGrammar

/-!
Published addresses, reported once more.

A published address is a host and a port like a reported one, and whoever is given it may hand it on
to be published again. Nothing changes then as long as the host can do without its brackets, or gets
them back. An address of the Internet Protocol does: its one text is read as the address that it was
written for, and the name of the machine is published as itself. A host that is neither is published
as it stands, without the brackets that it was cut out of, although those brackets are all that keeps
its colons apart from the one in front of the port.

Main statement: `resolve_address_iff`.
-/

namespace MeshControl.Harness.Endpoint

open Net

/-! ## Hosts of reported addresses -/

/-- The host of a reported address: what stands between the brackets, or else before the colon. -/
def HasHost (text host : List Char) : Prop :=
  (']' ∉ host ∧ ∃ digits, text = '[' :: (host ++ ']' :: ':' :: digits)) ∨
    text.head? ≠ some '[' ∧ ':' ∉ host ∧ ∃ digits, text = host ++ ':' :: digits

/-- An address of either family. -/
def IsIp (host : List Char) : Prop :=
  IsIpv4 host ∨ IsIpv6 host

/-- A host that needs no brackets: it has no colon, and cannot be taken for one that has brackets. -/
def IsUnmarked (host : List Char) : Prop :=
  ':' ∉ host ∧ host.head? ≠ some '['

/-- A published host that stands in brackets. -/
def IsBracketed (host : List Char) : Prop :=
  ∃ inside, host = '[' :: inside ++ [']']

theorem isSome_readIp_iff {host : List Char} :
    (IpAddress.read host).isSome = true ↔ IsIp host := by
  rw [IsIp, ← isSome_readIpv4_iff, ← isSome_readIpv6_iff, IpAddress.read]
  cases Ipv4.read host <;> simp

/-- A text has one host at most. -/
theorem HasHost.unique {text first second : List Char} (has : HasHost text first)
    (has' : HasHost text second) : first = second := by
  rcases has with ⟨closed, digits, rfl⟩ | ⟨unopened, single, digits, rfl⟩
  · rcases has' with ⟨closed', digits', same⟩ | ⟨unopened, -⟩
    · have cut := SocketAddress.splitAtFirst_append closed (':' :: digits)
      rw [(List.cons.inj same).2, SocketAddress.splitAtFirst_append closed'] at cut
      cases cut
      rfl
    · exact absurd rfl unopened
  · rcases has' with ⟨-, digits', same⟩ | ⟨-, single', digits', same⟩
    · rw [same] at unopened
      exact absurd rfl unopened
    · have cut := SocketAddress.splitAtFirst_append single digits
      rw [same, SocketAddress.splitAtFirst_append single'] at cut
      cases cut
      rfl

theorem IsJoined.hasHost {host digits text : List Char} (joined : IsJoined host digits text) :
    HasHost text host := by
  cases joined with
  | bracketed closed => exact .inl ⟨closed, digits, rfl⟩
  | bare unopened single => exact .inr ⟨unopened, single, digits, rfl⟩

/-- A host that needs its brackets has them, and so it closes none. -/
theorem HasHost.bracket_not_mem {text host : List Char} (has : HasHost text host)
    (marked : ¬ IsUnmarked host) : ']' ∉ host := by
  rcases has with ⟨closed, -⟩ | ⟨unopened, single, digits, rfl⟩
  · exact closed
  · refine absurd ⟨single, ?_⟩ marked
    cases host with
    | nil => nofun
    | cons first rest => exact unopened

/-! ## Endpoints of reported addresses -/

/-- An endpoint has the published form of the reported host, and a port. -/
theorem exists_host_of_resolve {listener : Listener} {bound : String} {endpoint : Endpoint}
    (resolved : resolve listener bound = .ok endpoint) :
    ∃ host, HasHost bound.toList host ∧ endpoint.host = String.ofList (clientHost host) ∧
      endpoint.port ≠ 0 := by
  rcases ofBound_eq_ok_iff.mp (resolve_eq_ok_iff.mp resolved) with
    ⟨nonzero, host, digits, joined, -, published⟩
  exact ⟨host, joined.hasHost, published, nonzero⟩

theorem ofBound_unmarked {host : List Char} (unmarked : IsUnmarked host) {port : Port}
    (bound : port ≠ 0) :
    ofBound (host ++ ':' :: Text.decimal port.val) =
      .ok ⟨String.ofList (clientHost host), port⟩ := by
  refine ofBound_eq_ok_iff.mpr ⟨bound, host, _, .bare ?_ unmarked.1, ⟨0, .inl rfl⟩, rfl⟩
  cases host with
  | nil => nofun
  | cons first rest => exact unmarked.2

/-- A host in brackets is published like the host alone. -/
theorem ofBound_literal {ip : Ipv6} {port : Port} (bound : port ≠ 0) :
    ofBound (literal (.v6 ip) ++ ':' :: Text.decimal port.val) =
      .ok ⟨String.ofList (clientHost ip.write), port⟩ := by
  have closed : ']' ∉ ip.write := Ipv6.not_mem_write (by decide) (by decide) (by decide)
  have joined := @IsJoined.bracketed ip.write (Text.decimal port.val) closed
  refine ofBound_eq_ok_iff.mpr ⟨bound, ip.write, _, ?_, ⟨0, .inl rfl⟩, rfl⟩
  simpa [literal] using joined

/-! ## Published hosts -/

theorem isUnmarked_localHost : IsUnmarked localHost.toList := by
  simp [IsUnmarked, localHost]

theorem clientHost_localHost : clientHost localHost.toList = localHost.toList := by
  decide +kernel

theorem isUnmarked_of_isIpv4 {host : List Char} (ip : IsIpv4 host) : IsUnmarked host :=
  ⟨ip.not_mem (by decide) (by decide),
    mt List.mem_of_mem_head? (ip.not_mem (by decide) (by decide))⟩

/-- What is published for an address of the Internet Protocol needs no brackets, or has them. Either
way it is published for itself. -/
theorem clientHost_of_isIp {host : List Char} (isIp : IsIp host) :
    IsUnmarked (clientHost host) ∧ clientHost (clientHost host) = clientHost host ∨
      ∃ ip, clientHost host = literal (.v6 ip) ∧ clientHost ip.write = clientHost host := by
  rcases Option.isSome_iff_exists.mp (isSome_readIp_iff.mpr isIp) with ⟨ip, read⟩
  have published := clientHost_of_read read
  by_cases folded : (ip.isWildcard || ip.isLoopback) = true
  · rw [if_pos folded] at published
    rw [published]
    exact .inl ⟨isUnmarked_localHost, clientHost_localHost⟩
  · rw [if_neg folded] at published
    cases ip with
    | v4 ip =>
        have isIpv4 : IsIpv4 host := by
          apply isSome_readIpv4_iff.mp
          rw [IpAddress.read] at read
          cases found : Ipv4.read host with
          | none => simp [found] at read
          | some => rfl
        have kept : clientHost host = host := published
        rw [kept]
        exact .inl ⟨isUnmarked_of_isIpv4 isIpv4, kept⟩
    | v6 ip =>
        have again := clientHost_write (.v6 ip)
        rw [if_neg folded] at again
        exact .inr ⟨ip, published, again.trans published.symm⟩

/-- What is published for an address of the Internet Protocol is reported as itself. -/
theorem ofBound_clientHost_of_isIp {host : List Char} (isIp : IsIp host) {port : Port}
    (bound : port ≠ 0) :
    ofBound (clientHost host ++ ':' :: Text.decimal port.val) =
      .ok ⟨String.ofList (clientHost host), port⟩ := by
  rcases clientHost_of_isIp isIp with ⟨unmarked, again⟩ | ⟨ip, bracketed, again⟩
  · rw [ofBound_unmarked unmarked bound, again]
  · rw [bracketed, ofBound_literal bound, again, bracketed]

/-- An address of the Internet Protocol has no colon outside of brackets. -/
theorem isBracketed_of_isIp {host : List Char} (isIp : IsIp host) (colon : ':' ∈ clientHost host) :
    IsBracketed (clientHost host) := by
  rcases clientHost_of_isIp isIp with ⟨unmarked, -⟩ | ⟨ip, bracketed, -⟩
  · exact absurd colon unmarked.1
  · exact ⟨ip.write, bracketed⟩

/-- A host that is no address is published as it stands, unless there is none. -/
theorem clientHost_of_not_isIp {host : List Char} (other : ¬ IsIp host) :
    clientHost host = if host = [] then localHost.toList else host := by
  have unread : IpAddress.read host = none :=
    Option.not_isSome_iff_eq_none.mp (mt isSome_readIp_iff.mp other)
  cases host with
  | nil => rfl
  | cons first rest =>
      rw [clientHost, unread]
      rfl

/-- A host without a mark of its own is published as itself as well. -/
theorem clientHost_of_isUnmarked {host : List Char} (other : ¬ IsIp host)
    (unmarked : IsUnmarked host) :
    IsUnmarked (clientHost host) ∧ clientHost (clientHost host) = clientHost host := by
  have published := clientHost_of_not_isIp other
  by_cases empty : host = []
  · rw [if_pos empty] at published
    rw [published]
    exact ⟨isUnmarked_localHost, clientHost_localHost⟩
  · rw [if_neg empty] at published
    rw [published]
    exact ⟨unmarked, published⟩

theorem clientHost_of_marked {host : List Char} (other : ¬ IsIp host) (marked : ¬ IsUnmarked host) :
    clientHost host = host := by
  have filled : host ≠ [] := by
    rintro rfl
    exact marked ⟨List.not_mem_nil, nofun⟩
  rw [clientHost_of_not_isIp other, if_neg filled]

/-- A host that needs its brackets is not found again without them. -/
theorem ofBound_marked {host : List Char} (marked : ¬ IsUnmarked host) (closed : ']' ∉ host)
    (port : Port) :
    ofBound (host ++ ':' :: Text.decimal port.val) =
      .error (if host.head? = some '[' then .missingBracket else .tooManyColons) := by
  apply ofBound_eq_error_iff.mpr
  apply IsMalformed.marks
  by_cases opened : host.head? = some '['
  · rw [if_pos opened]
    refine .unclosed ?_ ?_
    · rw [List.head?_append, opened, Option.some_or]
    · simp only [List.mem_append, List.mem_cons, not_or]
      exact ⟨closed, by decide, Text.not_mem_decimal (by decide)⟩
  · rw [if_neg opened]
    have colon : ':' ∈ host := Decidable.byContradiction fun single => marked ⟨single, opened⟩
    refine .crowded ?_ ?_
    · cases host with
      | nil => cases colon
      | cons first rest => exact opened
    · have many := List.count_pos_iff.mpr colon
      rw [List.count_append, List.count_cons_self]
      omega

/-! ## The address of an endpoint -/

/-- A published address has the form of a reported one, as far as its host needs no brackets.

Whatever is published for a reported address is published again as it is if it is reported itself, as
long as the reported host is an address of the Internet Protocol or needs no brackets. Any other host
has lost its brackets, and what was published for it is no address any more: it has too many colons, or
opens a bracket that nobody closes. Of the published hosts with a colon, exactly those that stand for
an address of the Internet Protocol are in brackets. -/
theorem resolve_address_iff {listener : Listener} {bound : String} {endpoint : Endpoint}
    (resolved : resolve listener bound = .ok endpoint) :
    ∃ host, HasHost bound.toList host ∧
      (resolve listener endpoint.address = .ok endpoint ↔ IsIp host ∨ IsUnmarked host) ∧
      (¬ (IsIp host ∨ IsUnmarked host) →
        resolve listener endpoint.address = .error (.addressFormat listener endpoint.address
          (if host.head? = some '[' then .missingBracket else .tooManyColons))) ∧
      (':' ∈ endpoint.host.toList → (IsBracketed endpoint.host.toList ↔ IsIp host)) := by
  rcases exists_host_of_resolve resolved with ⟨host, has, published, bound⟩
  have again : resolve listener endpoint.address =
      (ofBound (clientHost host ++ ':' :: Text.decimal endpoint.port.val)).mapError
        (.addressFormat listener endpoint.address) := by
    rw [resolve, toList_address, published, String.toList_ofList]
  have whole : Endpoint.mk (String.ofList (clientHost host)) endpoint.port = endpoint := by
    rw [← published]
  rw [again, published, String.toList_ofList]
  refine ⟨host, has, ?_⟩
  by_cases isIp : IsIp host
  · rw [ofBound_clientHost_of_isIp isIp bound, whole]
    refine ⟨iff_of_true rfl (.inl isIp), fun neither => absurd (.inl isIp) neither, ?_⟩
    exact fun colon => iff_of_true (isBracketed_of_isIp isIp colon) isIp
  by_cases unmarked : IsUnmarked host
  · rcases clientHost_of_isUnmarked isIp unmarked with ⟨published, same⟩
    rw [ofBound_unmarked published bound, same, whole]
    refine ⟨iff_of_true rfl (.inr unmarked), fun neither => absurd (.inr unmarked) neither, ?_⟩
    exact fun colon => absurd colon published.1
  · have closed := has.bracket_not_mem unmarked
    have neither : ¬ (IsIp host ∨ IsUnmarked host) := not_or.mpr ⟨isIp, unmarked⟩
    rw [clientHost_of_marked isIp unmarked, ofBound_marked unmarked closed]
    refine ⟨iff_of_false (by rintro ⟨⟩) neither, fun _ => rfl, fun _ => iff_of_false ?_ isIp⟩
    rintro ⟨inside, rfl⟩
    exact closed (by simp)

/-- An address in an unusual spelling, behind a port with a sign and a zero. What is published for it
is published again as it is. -/
theorem resolve_address_iff_respelled :
    resolve .grpc "[2001:0DB8:0::0.0.0.1]:+08080" = .ok ⟨"[2001:db8::1]", 8080⟩ ∧
      resolve .grpc "[2001:db8::1]:8080" = .ok ⟨"[2001:db8::1]", 8080⟩ := by
  have resolved : resolve .grpc "[2001:0DB8:0::0.0.0.1]:+08080" = .ok ⟨"[2001:db8::1]", 8080⟩ := by
    decide +kernel
  refine ⟨resolved, ?_⟩
  rcases resolve_address_iff resolved with ⟨host, has, again, -⟩
  have inside : HasHost "[2001:0DB8:0::0.0.0.1]:+08080".toList "2001:0DB8:0::0.0.0.1".toList :=
    .inl ⟨by decide, "+08080".toList, by decide⟩
  have isIp : IsIp host := by
    rw [has.unique inside]
    exact isSome_readIp_iff.mp (by decide +kernel)
  exact again.mpr (.inl isIp)

/-- An address with a scope is no address of the Internet Protocol alone. It loses its brackets, and
what is published for it is refused. -/
theorem address_not_resolved :
    resolve .http "[fe80::1%3]:8080" = .ok ⟨"fe80::1%3", 8080⟩ ∧
      Endpoint.address ⟨"fe80::1%3", 8080⟩ = "fe80::1%3:8080" ∧
      resolve .http "fe80::1%3:8080" =
        .error (.addressFormat .http "fe80::1%3:8080" .tooManyColons) ∧
      ':' ∈ "fe80::1%3".toList ∧ "fe80::1%3" ≠ "[fe80::1%3]" := by
  decide +kernel

end MeshControl.Harness.Endpoint
