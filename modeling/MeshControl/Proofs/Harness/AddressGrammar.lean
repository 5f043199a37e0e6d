import MeshControl.Proofs.Harness.Dialing
import MeshControl.Proofs.Net.Grammar
import MeshControl.Proofs.Text.Trimming

/-!
The syntax of a reported address, and what is wrong with a text that has another one.

A text is refused for its marks or for its port. The marks are brackets and colons, and a text in
which they are not where they belong is cut nowhere. Any other text has exactly one place where it can
be cut, so that the port is known without the cutter, and all that is left to ask is whether it is a
number and which. An empty port behind a bare host counts as a fault of the marks, and behind a host in
brackets as a fault of the port.

Main statement: `resolve_grammar`.
-/

namespace MeshControl.Harness.Endpoint

open Net

/-! ## The grammar -/

/-- A text is put together from a host and whatever stands in the place of a port. A host that stands
in brackets closes none of its own, and a host that does not has no colon. -/
inductive IsJoined : List Char → List Char → List Char → Prop where
  | bracketed {host digits : List Char} :
      ']' ∉ host → IsJoined host digits ('[' :: host ++ ']' :: ':' :: digits)
  | bare {host digits : List Char} :
      (host ++ ':' :: digits).head? ≠ some '[' → ':' ∉ host →
        IsJoined host digits (host ++ ':' :: digits)

/-- The marks of a text are not where they belong. -/
inductive IsMismarked : List Char → AddressFault → Prop where
  | unclosed {text : List Char} :
      text.head? = some '[' → ']' ∉ text → IsMismarked text .missingBracket
  | unfollowed {host after : List Char} :
      ']' ∉ host → after.head? ≠ some ':' →
        IsMismarked ('[' :: host ++ ']' :: after) .missingPort
  | colonless {text : List Char} :
      text.head? ≠ some '[' → ':' ∉ text → IsMismarked text .missingPort
  | ended {host : List Char} :
      (host ++ [':']).head? ≠ some '[' → ':' ∉ host → IsMismarked (host ++ [':']) .missingPort
  | crowded {text : List Char} :
      text.head? ≠ some '[' → 2 ≤ text.count ':' → IsMismarked text .tooManyColons

/-- What is wrong with a text that is no address: its marks, or else its port. -/
inductive IsMalformed : List Char → AddressFault → Prop where
  | marks {text : List Char} {fault : AddressFault} :
      IsMismarked text fault → IsMalformed text fault
  | zero {host digits text : List Char} :
      IsJoined host digits text → Text.IsUnsigned digits 0 → IsMalformed text .zeroPort
  | number {host digits text : List Char} :
      (∀ fault, ¬ IsMismarked text fault) → IsJoined host digits text →
        (∀ port : Port, ¬ Text.IsUnsigned digits port.val) → IsMalformed text .invalidPort

/-! ## Marks -/

theorem splitHostPort_of_unopened {text : List Char} (unopened : text.head? ≠ some '[') :
    splitHostPort text =
      match SocketAddress.splitAtLast ':' text with
      | none => .error .missingPort
      | some (host, port) =>
        if host.contains ':' then .error .tooManyColons
        else if port.isEmpty then .error .missingPort
        else .ok (host, port) := by
  unfold splitHostPort
  split
  case h_1 => exact absurd rfl unopened
  case h_2 => rfl

theorem IsMismarked.splitHostPort {text : List Char} {fault : AddressFault}
    (mismarked : IsMismarked text fault) : Endpoint.splitHostPort text = .error fault := by
  cases mismarked with
  | unclosed opened unclosed =>
      rcases List.head?_eq_some_iff.mp opened with ⟨rest, rfl⟩
      have none := SocketAddress.splitAtFirst_of_not_mem (mt (List.mem_cons_of_mem '[') unclosed)
      rw [Endpoint.splitHostPort, none]
  | @unfollowed host after closed other =>
      rw [List.cons_append, Endpoint.splitHostPort, SocketAddress.splitAtFirst_append closed]
      cases after with
      | nil => rfl
      | cons first rest =>
          have noColon : first ≠ ':' := fun same => other (congrArg some same)
          split
          case h_1 same =>
            cases same
          case h_2 same =>
            cases same
            exact absurd rfl noColon
          case h_3 => rfl
  | colonless unopened colonless =>
      rw [splitHostPort_of_unopened unopened, SocketAddress.splitAtLast_eq_none_iff.mpr colonless]
  | ended unopened single =>
      rw [splitHostPort_of_unopened unopened, SocketAddress.splitAtLast_append List.not_mem_nil]
      simp [single]
  | crowded unopened many =>
      have member : ':' ∈ text := List.count_pos_iff.mp (by omega)
      rw [splitHostPort_of_unopened unopened]
      cases cut : SocketAddress.splitAtLast ':' text with
      | none => exact absurd member (SocketAddress.splitAtLast_eq_none_iff.mp cut)
      | some parts =>
          rcases parts with ⟨host, digits⟩
          rcases SocketAddress.splitAtLast_eq_some_iff.mp cut with ⟨absent, rfl⟩
          rw [List.count_append, List.count_cons_self, List.count_eq_zero_of_not_mem absent] at many
          have further : ':' ∈ host := List.count_pos_iff.mp (by omega)
          simp [further]

/-- A text is cut where it was put together, if its marks are where they belong. -/
theorem IsJoined.splitHostPort {host digits text : List Char} (joined : IsJoined host digits text)
    (marked : ∀ fault, ¬ IsMismarked text fault) :
    Endpoint.splitHostPort text = .ok (host, digits) := by
  cases joined with
  | bracketed closed => exact splitHostPort_bracketed closed digits
  | bare unopened single =>
      have uncut : ':' ∉ digits := by
        intro further
        have many := List.count_pos_iff.mpr further
        refine marked _ (.crowded unopened ?_)
        rw [List.count_append, List.count_cons_self]
        omega
      refine splitHostPort_unopened unopened single uncut ?_
      rintro rfl
      exact marked _ (.ended unopened single)

/-- A text is cut where it was put together, or its marks are not where they belong. -/
theorem splitHostPort_cases (text : List Char) :
    (∃ host digits, splitHostPort text = .ok (host, digits) ∧ IsJoined host digits text) ∨
      ∃ fault, splitHostPort text = .error fault ∧ IsMismarked text fault := by
  by_cases opened : text.head? = some '['
  · rcases List.head?_eq_some_iff.mp opened with ⟨rest, rfl⟩
    cases cut : SocketAddress.splitAtFirst ']' rest with
    | none =>
        have unclosed : ']' ∉ '[' :: rest := by
          simp [SocketAddress.splitAtFirst_eq_none_iff.mp cut]
        have mismarked := IsMismarked.unclosed opened unclosed
        exact .inr ⟨_, mismarked.splitHostPort, mismarked⟩
    | some parts =>
        rcases parts with ⟨host, after⟩
        rcases SocketAddress.splitAtFirst_eq_some_iff.mp cut with ⟨closed, rfl⟩
        by_cases followed : after.head? = some ':'
        · rcases List.head?_eq_some_iff.mp followed with ⟨digits, rfl⟩
          exact .inl ⟨host, digits, splitHostPort_bracketed closed digits, .bracketed closed⟩
        · have mismarked := IsMismarked.unfollowed closed followed
          exact .inr ⟨_, mismarked.splitHostPort, mismarked⟩
  · cases cut : SocketAddress.splitAtLast ':' text with
    | none =>
        have mismarked := IsMismarked.colonless opened
          (SocketAddress.splitAtLast_eq_none_iff.mp cut)
        exact .inr ⟨_, mismarked.splitHostPort, mismarked⟩
    | some parts =>
        rcases parts with ⟨host, digits⟩
        rcases SocketAddress.splitAtLast_eq_some_iff.mp cut with ⟨uncut, rfl⟩
        by_cases further : ':' ∈ host
        · have many : 2 ≤ (host ++ ':' :: digits).count ':' := by
            have := List.count_pos_iff.mpr further
            rw [List.count_append, List.count_cons_self]
            omega
          have mismarked := IsMismarked.crowded opened many
          exact .inr ⟨_, mismarked.splitHostPort, mismarked⟩
        · by_cases missing : digits = []
          · subst missing
            have mismarked := IsMismarked.ended opened further
            exact .inr ⟨_, mismarked.splitHostPort, mismarked⟩
          · exact .inl ⟨host, digits, splitHostPort_unopened opened further uncut missing,
              .bare opened further⟩

theorem splitHostPort_eq_error_iff {text : List Char} {fault : AddressFault} :
    splitHostPort text = .error fault ↔ IsMismarked text fault := by
  refine ⟨?_, IsMismarked.splitHostPort⟩
  intro refused
  rcases splitHostPort_cases text with ⟨host, digits, cut, -⟩ | ⟨found, refused', mismarked⟩
  · cases cut.symm.trans refused
  · cases refused'.symm.trans refused
    exact mismarked

theorem splitHostPort_eq_ok_iff {text host digits : List Char} :
    splitHostPort text = .ok (host, digits) ↔
      IsJoined host digits text ∧ ∀ fault, ¬ IsMismarked text fault := by
  constructor
  · intro cut
    rcases splitHostPort_cases text with ⟨host, digits, cut', joined⟩ | ⟨found, refused, -⟩
    · cases cut'.symm.trans cut
      refine ⟨joined, ?_⟩
      intro fault mismarked
      cases cut.symm.trans mismarked.splitHostPort
    · cases cut.symm.trans refused
  · rintro ⟨joined, marked⟩
    exact joined.splitHostPort marked

/-! ## Ports -/

theorem readPort_eq_ok_iff {digits : List Char} {port : Port} :
    readPort digits = .ok port ↔ port ≠ 0 ∧ Text.IsUnsigned digits port.val := by
  rw [← Text.readUnsigned_eq_some_iff, readPort]
  cases read : Text.readUnsigned 65536 digits with
  | none => simp
  | some found =>
      by_cases zero : found = 0
      · rw [zero]
        refine iff_of_false (by rintro ⟨⟩) ?_
        rintro ⟨nonzero, same⟩
        exact nonzero (Option.some.inj same).symm
      · simp only [if_neg zero, Except.ok.injEq, Option.some.injEq]
        constructor
        · rintro rfl
          exact ⟨zero, rfl⟩
        · exact And.right

theorem readPort_eq_error_iff {digits : List Char} {fault : AddressFault} :
    readPort digits = .error fault ↔
      fault = .zeroPort ∧ Text.IsUnsigned digits 0 ∨
        fault = .invalidPort ∧ ∀ port : Port, ¬ Text.IsUnsigned digits port.val := by
  have isPort (port : Port) :
      Text.IsUnsigned digits port.val ↔ Text.readUnsigned 65536 digits = some port :=
    Text.readUnsigned_eq_some_iff.symm
  have isZero : Text.IsUnsigned digits 0 ↔ Text.readUnsigned 65536 digits = some 0 := isPort 0
  simp only [isZero, isPort, readPort]
  cases read : Text.readUnsigned 65536 digits with
  | none => simp [eq_comm]
  | some found =>
      by_cases zero : found = 0
      · simp [zero, eq_comm]
      · simp [zero]

/-- A text with a number in the place of the port has its marks where they belong. -/
theorem IsJoined.not_isMismarked {host digits text : List Char} {port : Nat}
    (joined : IsJoined host digits text) (number : Text.IsUnsigned digits port)
    (fault : AddressFault) : ¬ IsMismarked text fault := by
  have cut : Endpoint.splitHostPort text = .ok (host, digits) := by
    cases joined with
    | bracketed closed => exact splitHostPort_bracketed closed digits
    | bare unopened single =>
        exact splitHostPort_unopened unopened single
          (Text.not_mem_of_isUnsigned number (by decide) (by decide))
          (Text.ne_nil_of_isUnsigned number)
  intro mismarked
  cases cut.symm.trans mismarked.splitHostPort

/-! ## Addresses -/

theorem ofBound_eq_ok_iff {bound : List Char} {endpoint : Endpoint} :
    ofBound bound = .ok endpoint ↔ endpoint.port ≠ 0 ∧ ∃ host digits, IsJoined host digits bound ∧
      Text.IsUnsigned digits endpoint.port.val ∧
      endpoint.host = String.ofList (clientHost host) := by
  constructor
  · intro read
    rcases splitHostPort_cases bound with ⟨host, digits, cut, joined⟩ | ⟨fault, refused, -⟩
    · rw [ofBound_eq cut] at read
      cases readPort' : readPort digits with
      | error fault =>
          rw [readPort'] at read
          cases read
      | ok port =>
          rw [readPort'] at read
          cases read
          rcases readPort_eq_ok_iff.mp readPort' with ⟨nonzero, number⟩
          exact ⟨nonzero, host, digits, joined, number, rfl⟩
    · rw [ofBound, refused] at read
      cases read
  · rintro ⟨nonzero, host, digits, joined, number, same⟩
    have cut := joined.splitHostPort (joined.not_isMismarked number)
    rw [ofBound_eq cut, readPort_eq_ok_iff.mpr ⟨nonzero, number⟩]
    cases endpoint
    cases same
    rfl

theorem ofBound_eq_error_iff {bound : List Char} {fault : AddressFault} :
    ofBound bound = .error fault ↔ IsMalformed bound fault := by
  have refused {found : AddressFault} (split : splitHostPort bound = .error found) :
      ofBound bound = .error found := by
    rw [ofBound, split]
    rfl
  have readOnly {host digits : List Char} (split : splitHostPort bound = .ok (host, digits)) :
      ofBound bound = .error fault ↔ readPort digits = .error fault := by
    rw [ofBound_eq split]
    cases readPort digits <;> simp
  constructor
  · intro wrong
    cases split : splitHostPort bound with
    | error found =>
        cases (refused split).symm.trans wrong
        exact .marks (splitHostPort_eq_error_iff.mp split)
    | ok parts =>
        rcases splitHostPort_eq_ok_iff.mp split with ⟨joined, marked⟩
        rcases readPort_eq_error_iff.mp ((readOnly split).mp wrong) with
          ⟨rfl, zero⟩ | ⟨rfl, other⟩
        · exact .zero joined zero
        · exact .number marked joined other
  · intro malformed
    cases malformed with
    | marks mismarked => exact refused mismarked.splitHostPort
    | zero joined zero =>
        have split := joined.splitHostPort (joined.not_isMismarked zero)
        exact (readOnly split).mpr (readPort_eq_error_iff.mpr (.inl ⟨rfl, zero⟩))
    | number marked joined other =>
        have split := joined.splitHostPort marked
        exact (readOnly split).mpr (readPort_eq_error_iff.mpr (.inr ⟨rfl, other⟩))

theorem resolve_eq_ok_iff {listener : Listener} {bound : String} {endpoint : Endpoint} :
    resolve listener bound = .ok endpoint ↔ ofBound bound.toList = .ok endpoint := by
  rw [resolve]
  cases ofBound bound.toList <;> simp [Except.mapError]

theorem resolve_eq_error_iff {listener : Listener} {bound : String} {error : HarnessError} :
    resolve listener bound = .error error ↔
      ∃ fault, ofBound bound.toList = .error fault ∧
        error = .addressFormat listener bound fault := by
  rw [resolve]
  cases ofBound bound.toList <;> simp [Except.mapError, eq_comm]

/-- An endpoint is published for a text that is put together from a host and the number of a port,
which may have a plus sign and zeros in front of it and is not zero, and for no other text. Every
other text is refused as it was reported, for its marks or for its port. -/
theorem resolve_grammar (listener : Listener) (bound : String) :
    (∀ port : Port,
      (∃ endpoint, resolve listener bound = .ok endpoint ∧ endpoint.port = port) ↔
        port ≠ 0 ∧ ∃ host digits, IsJoined host digits bound.toList ∧
          Text.IsUnsigned digits port.val) ∧
      ∀ error, resolve listener bound = .error error ↔
        ∃ fault, IsMalformed bound.toList fault ∧ error = .addressFormat listener bound fault := by
  refine ⟨fun port => ?_, fun error => ?_⟩
  · simp only [resolve_eq_ok_iff, ofBound_eq_ok_iff]
    constructor
    · rintro ⟨endpoint, ⟨nonzero, host, digits, joined, number, -⟩, rfl⟩
      exact ⟨nonzero, host, digits, joined, number⟩
    · rintro ⟨nonzero, host, digits, joined, number⟩
      exact ⟨⟨_, port⟩, ⟨nonzero, host, digits, joined, number, rfl⟩, rfl⟩
  · simp only [resolve_eq_error_iff, ofBound_eq_error_iff]

end MeshControl.Harness.Endpoint
