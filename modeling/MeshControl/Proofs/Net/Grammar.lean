import Mathlib.Data.List.Basic
import MeshControl.Proofs.Net.SocketText
import MeshControl.Proofs.Net.Spelling

/-!
The syntax of a socket address.

The readers cut a text at its marks and look at the pieces. A grammar goes the other way and says
how a text is put together. Both are shown to be about the same texts, so that what a listener can
be configured with is known without the readers.

What an address means does not matter here. A text has the syntax of one if it is a spelling of any.

Main statement: `SocketAddress.isSome_ofString?_iff`.
-/

namespace MeshControl.Net

/-! ## The grammar -/

/-- A number below a limit, in decimal digits. -/
def IsNumber (limit : Nat) (text : List Char) : Prop :=
  ∃ zeros value, value < limit ∧ text = List.replicate zeros '0' ++ Text.decimal value

/-- A number below 256 without leading zeros. -/
def IsOctet (text : List Char) : Prop :=
  ∃ value < 256, text = Text.decimal value

def IsIpv4 (text : List Char) : Prop :=
  ∃ first second third fourth, IsOctet first ∧ IsOctet second ∧ IsOctet third ∧ IsOctet fourth ∧
    text = first ++ '.' :: second ++ '.' :: third ++ '.' :: fourth

def IsHexDigit (digit : Char) : Prop :=
  '0' ≤ digit ∧ digit ≤ '9' ∨ 'a' ≤ digit ∧ digit ≤ 'f' ∨ 'A' ≤ digit ∧ digit ≤ 'F'

/-- One to four hexadecimal digits. -/
def IsGroup (text : List Char) : Prop :=
  text ≠ [] ∧ text.length ≤ 4 ∧ ∀ digit ∈ text, IsHexDigit digit

/-- Groups separated by colons, and how many. -/
inductive IsGroups : Nat → List Char → Prop where
  | last {text : List Char} : IsGroup text → IsGroups 1 text
  | more {text rest : List Char} {count : Nat} :
      IsGroup text → IsGroups count rest → IsGroups (count + 1) (text ++ ':' :: rest)

/-- Groups separated by colons, of which an IPv4 address may take the place of the last two. -/
inductive IsTail : Nat → List Char → Prop where
  | last {text : List Char} : IsGroup text → IsTail 1 text
  | ipv4 {text : List Char} : IsIpv4 text → IsTail 2 text
  | more {text rest : List Char} {count : Nat} :
      IsGroup text → IsTail count rest → IsTail (count + 1) (text ++ ':' :: rest)

/-- Eight groups, or fewer with a double colon in place of the others. -/
inductive IsIpv6 : List Char → Prop where
  | full {text : List Char} : IsTail 8 text → IsIpv6 text
  | gap {front back : List Char} {before after : Nat} :
      before = 0 ∧ front = [] ∨ IsGroups before front →
      after = 0 ∧ back = [] ∨ IsTail after back →
      before + after < 8 → IsIpv6 (front ++ ':' :: ':' :: back)

/-- An address and a port. An IPv6 address stands in brackets, where a scope may follow it. -/
inductive IsSocketAddress : List Char → Prop where
  | v4 {ip port : List Char} :
      IsIpv4 ip → IsNumber 65536 port → IsSocketAddress (ip ++ ':' :: port)
  | v6 {ip port : List Char} :
      IsIpv6 ip → IsNumber 65536 port → IsSocketAddress ('[' :: ip ++ ']' :: ':' :: port)
  | v6Scoped {ip scope port : List Char} :
      IsIpv6 ip → IsNumber 4294967296 scope → IsNumber 65536 port →
        IsSocketAddress ('[' :: ip ++ '%' :: scope ++ ']' :: ':' :: port)

/-! ## Pieces -/

theorem hexValue_isSome_iff {digit : Char} :
    (Text.hexValue digit).isSome = true ↔ IsHexDigit digit := by
  unfold Text.hexValue IsHexDigit
  have decimal : digit.isDigit = true ↔ '0' ≤ digit ∧ digit ≤ '9' := by
    simp [Char.isDigit, Char.le_def]
  split
  · simp_all
  · split
    · simp_all
    · split <;> simp_all

theorem isSome_readNumber_iff {limit : Nat} {text : List Char} :
    (Text.readBounded limit text).isSome = true ↔ IsNumber limit text :=
  Text.isSome_readBounded_iff

theorem isSome_readGroup_iff {text : List Char} :
    (readGroup text).isSome = true ↔ IsGroup text := by
  unfold readGroup IsGroup
  split <;> rename_i long
  · simp [Nat.not_le_of_lt long]
  · rw [Option.isSome_map, Text.isSome_readHexadecimal_iff]
    simp only [hexValue_isSome_iff, Nat.le_of_not_lt long, true_and]

/-! ## Marks -/

theorem IsNumber.isDigit {limit : Nat} {text : List Char} (number : IsNumber limit text) :
    ∀ digit ∈ text, digit.isDigit = true := by
  rcases number with ⟨zeros, value, -, rfl⟩
  intro digit member
  rcases List.mem_append.mp member with zero | written
  · rw [List.eq_of_mem_replicate zero]
    rfl
  · exact Text.isDigit_of_mem_decimal written

theorem IsOctet.isDigit {text : List Char} (octet : IsOctet text) :
    ∀ digit ∈ text, digit.isDigit = true := by
  rcases octet with ⟨value, -, rfl⟩
  exact fun digit => Text.isDigit_of_mem_decimal

/-- Digits hold no mark. -/
theorem not_mem_of_isDigit {mark : Char} {text : List Char}
    (digits : ∀ digit ∈ text, digit.isDigit = true) (other : mark.isDigit = false) :
    mark ∉ text := by
  intro member
  rw [digits mark member] at other
  cases other

theorem IsIpv4.mem {text : List Char} (ip : IsIpv4 text) {character : Char}
    (member : character ∈ text) : character.isDigit = true ∨ character = '.' := by
  rcases ip with ⟨first, second, third, fourth, a, b, c, d, rfl⟩
  simp only [List.append_assoc, List.cons_append, List.mem_append, List.mem_cons] at member
  rcases member with here | here | here | here | here | here | here
  · exact .inl (a.isDigit _ here)
  · exact .inr here
  · exact .inl (b.isDigit _ here)
  · exact .inr here
  · exact .inl (c.isDigit _ here)
  · exact .inr here
  · exact .inl (d.isDigit _ here)

theorem IsIpv4.not_mem {text : List Char} (ip : IsIpv4 text) {mark : Char}
    (other : mark.isDigit = false) (noDot : mark ≠ '.') : mark ∉ text := by
  intro member
  rcases ip.mem member with digit | dot
  · rw [digit] at other
    cases other
  · exact noDot dot

theorem IsGroup.not_mem {text : List Char} (group : IsGroup text) {mark : Char}
    (other : (Text.hexValue mark).isSome = false) : mark ∉ text := by
  intro member
  rw [hexValue_isSome_iff.mpr (group.2.2 mark member)] at other
  cases other

theorem IsGroups.isTail {count : Nat} {text : List Char} (groups : IsGroups count text) :
    IsTail count text := by
  induction groups with
  | last group => exact .last group
  | more group _ tail => exact .more group tail

theorem IsTail.not_mem {count : Nat} {text : List Char} (tail : IsTail count text) {mark : Char}
    (other : (Text.hexValue mark).isSome = false) (noColon : mark ≠ ':') (noDot : mark ≠ '.') :
    mark ∉ text := by
  induction tail with
  | last group => exact group.not_mem other
  | ipv4 ip =>
      have noDigit : mark.isDigit = false := by
        cases digit : mark.isDigit with
        | false => rfl
        | true =>
            rw [Text.hexValue_isSome_of_isDigit digit] at other
            cases other
      exact ip.not_mem noDigit noDot
  | more group _ ih =>
      simp only [List.mem_append, List.mem_cons, not_or]
      exact ⟨group.not_mem other, noColon, ih⟩

theorem IsIpv6.not_mem {text : List Char} (ip : IsIpv6 text) {mark : Char}
    (other : (Text.hexValue mark).isSome = false) (noColon : mark ≠ ':') (noDot : mark ≠ '.') :
    mark ∉ text := by
  have side {count : Nat} {text : List Char} (side : count = 0 ∧ text = [] ∨ IsTail count text) :
      mark ∉ text := by
    rcases side with ⟨-, rfl⟩ | tail
    · exact List.not_mem_nil
    · exact tail.not_mem other noColon noDot
  cases ip with
  | full tail => exact tail.not_mem other noColon noDot
  | gap front back _ =>
      simp only [List.mem_append, List.mem_cons, not_or]
      exact ⟨side (front.imp_right IsGroups.isTail), noColon, noColon, side back⟩

theorem IsIpv6.colon_mem {text : List Char} (ip : IsIpv6 text) : ':' ∈ text := by
  cases ip with
  | gap => simp
  | full tail =>
      cases tail with
      | more => simp

/-! ## Texts that mean something -/

/-- An IPv4 address has its one text. -/
theorem isIpv4_iff {text : List Char} : IsIpv4 text ↔ ∃ ip : Ipv4, text = ip.write := by
  constructor
  · rintro ⟨_, _, _, _, ⟨first, a, rfl⟩, ⟨second, b, rfl⟩, ⟨third, c, rfl⟩, ⟨fourth, d, rfl⟩, rfl⟩
    refine ⟨⟨[⟨first, a⟩, ⟨second, b⟩, ⟨third, c⟩, ⟨fourth, d⟩], rfl⟩, ?_⟩
    simp [Ipv4.write, List.intercalate_cons_cons]
  · rintro ⟨⟨octets, length⟩, rfl⟩
    rcases List.length_eq_four.mp length with ⟨first, second, third, fourth, rfl⟩
    refine ⟨_, _, _, _, ⟨first, first.isLt, rfl⟩, ⟨second, second.isLt, rfl⟩,
      ⟨third, third.isLt, rfl⟩, ⟨fourth, fourth.isLt, rfl⟩, ?_⟩
    simp [Ipv4.write, List.intercalate_cons_cons]

theorem Ipv4.length_toGroups (ip : Ipv4) : ip.toGroups.length = 2 := by
  rcases ip with ⟨octets, length⟩
  match octets, length with
  | [_, _, _, _], _ => rfl

theorem isGroup_iff {text : List Char} : IsGroup text ↔ ∃ group, SpellsGroup text group := by
  rw [← isSome_readGroup_iff, Option.isSome_iff_exists]
  simp only [readGroup_eq_some_iff]

theorem isGroups_iff {count : Nat} {text : List Char} :
    IsGroups count text ↔ ∃ groups, groups.length = count ∧ SpellsGroups text groups := by
  constructor
  · intro isGroups
    induction isGroups with
    | last isGroup =>
        rcases isGroup_iff.mp isGroup with ⟨group, spelled⟩
        exact ⟨[group], rfl, .last spelled⟩
    | more isGroup _ ih =>
        rcases isGroup_iff.mp isGroup with ⟨group, spelled⟩
        rcases ih with ⟨groups, rfl, others⟩
        exact ⟨group :: groups, rfl, .more spelled others⟩
  · rintro ⟨groups, rfl, spelled⟩
    induction spelled with
    | last spelled => exact .last (isGroup_iff.mpr ⟨_, spelled⟩)
    | more spelled _ ih => exact .more (isGroup_iff.mpr ⟨_, spelled⟩) ih

theorem isTail_iff {count : Nat} {text : List Char} :
    IsTail count text ↔ ∃ groups, groups.length = count ∧ SpellsTail text groups := by
  constructor
  · intro isTail
    induction isTail with
    | last isGroup =>
        rcases isGroup_iff.mp isGroup with ⟨group, spelled⟩
        exact ⟨[group], rfl, .last spelled⟩
    | ipv4 isIpv4 =>
        rcases isIpv4_iff.mp isIpv4 with ⟨ip, rfl⟩
        exact ⟨ip.toGroups, ip.length_toGroups, .ipv4 ip⟩
    | more isGroup _ ih =>
        rcases isGroup_iff.mp isGroup with ⟨group, spelled⟩
        rcases ih with ⟨groups, rfl, others⟩
        exact ⟨group :: groups, rfl, .more spelled others⟩
  · rintro ⟨groups, rfl, spelled⟩
    induction spelled with
    | last spelled => exact .last (isGroup_iff.mpr ⟨_, spelled⟩)
    | ipv4 ip =>
        rw [ip.length_toGroups]
        exact .ipv4 (isIpv4_iff.mpr ⟨ip, rfl⟩)
    | more spelled _ ih => exact .more (isGroup_iff.mpr ⟨_, spelled⟩) ih

/-- The groups on one side of a double colon, by their number or by themselves. -/
theorem isSide_iff {count : Nat} {text : List Char} {Is : Nat → List Char → Prop}
    {Spelled : List Char → List (Fin 65536) → Prop}
    (each : Is count text ↔ ∃ groups, groups.length = count ∧ Spelled text groups) :
    count = 0 ∧ text = [] ∨ Is count text ↔
      ∃ groups, groups.length = count ∧ (groups = [] ∧ text = [] ∨ Spelled text groups) := by
  constructor
  · rintro (⟨rfl, rfl⟩ | filled)
    · exact ⟨[], rfl, .inl ⟨rfl, rfl⟩⟩
    · rcases each.mp filled with ⟨groups, length, spelled⟩
      exact ⟨groups, length, .inr spelled⟩
  · rintro ⟨groups, length, ⟨rfl, rfl⟩ | spelled⟩
    · exact .inl ⟨length.symm, rfl⟩
    · exact .inr (each.mpr ⟨groups, length, spelled⟩)

theorem isIpv6_iff {text : List Char} : IsIpv6 text ↔ ∃ ip, Spells text ip := by
  constructor
  · intro isIpv6
    cases isIpv6 with
    | full isTail =>
        rcases isTail_iff.mp isTail with ⟨groups, eight, spelled⟩
        exact ⟨⟨groups, eight⟩, .full spelled⟩
    | gap isFront isBack room =>
        rcases (isSide_iff isGroups_iff).mp isFront with ⟨before, rfl, front⟩
        rcases (isSide_iff isTail_iff).mp isBack with ⟨after, rfl, back⟩
        -- The zeros make up for what is missing, so that the length is never at fault.
        have eight :
            (before ++ List.replicate (8 - (before.length + after.length)) 0 ++ after).length =
              8 := by
          simp only [List.length_append, List.length_replicate]
          omega
        exact ⟨⟨_, eight⟩, .gap front back (Nat.sub_pos_of_lt room) rfl⟩
  · rintro ⟨ip, spelled⟩
    have eight := ip.length_groups
    cases spelled with
    | full tail => exact .full (isTail_iff.mpr ⟨ip.groups, eight, tail⟩)
    | @gap front back before after zeros _ isFront isBack any groups =>
        rw [groups, List.length_append, List.length_append, List.length_replicate] at eight
        exact .gap ((isSide_iff isGroups_iff).mpr ⟨before, rfl, isFront⟩)
          ((isSide_iff isTail_iff).mpr ⟨after, rfl, isBack⟩) (by omega)

theorem isSome_readIpv4_iff {text : List Char} :
    (Ipv4.read text).isSome = true ↔ IsIpv4 text := by
  rw [isIpv4_iff, Option.isSome_iff_exists]
  simp only [Ipv4.read_eq_some_iff]

theorem isSome_readIpv6_iff {text : List Char} :
    (Ipv6.read text).isSome = true ↔ IsIpv6 text := by
  rw [isIpv6_iff, Option.isSome_iff_exists]
  simp only [Ipv6.read_eq_some_iff]

/-- No text is an address of both versions. -/
theorem IpAddress.read_of_ipv6 {text : List Char} {ip : Ipv6} (read : Ipv6.read text = some ip) :
    IpAddress.read text = some (.v6 ip) := by
  have isIp : IsIpv6 text := isSome_readIpv6_iff.mp (Option.isSome_of_eq_some read)
  have foreign : Ipv4.read text = none := Ipv4.read_of_mem isIp.colon_mem (by decide) (by decide)
  rw [IpAddress.read, foreign, read, Option.map_some]

/-! ## Either version -/

namespace SocketAddress

theorem splitAtFirst_eq_some_iff {mark : Char} {text before after : List Char} :
    splitAtFirst mark text = some (before, after) ↔
      mark ∉ before ∧ text = before ++ mark :: after := by
  constructor
  · intro cut
    by_cases member : mark ∈ text
    · rcases List.eq_append_cons_of_mem member with ⟨front, back, rfl, absent⟩
      rw [splitAtFirst_append absent] at cut
      cases cut
      exact ⟨absent, rfl⟩
    · rw [splitAtFirst_of_not_mem member] at cut
      cases cut
  · rintro ⟨absent, rfl⟩
    exact splitAtFirst_append absent after

theorem splitAtFirst_eq_none_iff {mark : Char} {text : List Char} :
    splitAtFirst mark text = none ↔ mark ∉ text := by
  refine ⟨?_, splitAtFirst_of_not_mem⟩
  intro uncut member
  rcases List.eq_append_cons_of_mem member with ⟨front, back, rfl, absent⟩
  rw [splitAtFirst_append absent] at uncut
  cases uncut

theorem splitAtLast_eq_none_iff {mark : Char} {text : List Char} :
    splitAtLast mark text = none ↔ mark ∉ text := by
  rw [splitAtLast, Option.map_eq_none_iff, splitAtFirst_eq_none_iff, List.mem_reverse]

theorem splitAtLast_eq_some_iff {mark : Char} {text before after : List Char} :
    splitAtLast mark text = some (before, after) ↔
      mark ∉ after ∧ text = before ++ mark :: after := by
  constructor
  · intro cut
    rcases Option.map_eq_some_iff.mp cut with ⟨⟨ahead, behind⟩, found, same⟩
    cases same
    rcases splitAtFirst_eq_some_iff.mp found with ⟨absent, backwards⟩
    refine ⟨mt List.mem_reverse.mp absent, ?_⟩
    rw [← List.reverse_reverse text, backwards]
    simp
  · rintro ⟨absent, rfl⟩
    exact splitAtLast_append absent before

/-- What may stand between the brackets. -/
def IsScoped (text : List Char) : Prop :=
  IsIpv6 text ∨ ∃ ip scope, IsIpv6 ip ∧ IsNumber 4294967296 scope ∧ text = ip ++ '%' :: scope

theorem IsScoped.bracket_not_mem {text : List Char} (inside : IsScoped text) : ']' ∉ text := by
  rcases inside with ip | ⟨ip, scope, isIp, number, rfl⟩
  · exact ip.not_mem (by decide) (by decide) (by decide)
  · simp only [List.mem_append, List.mem_cons, not_or]
    exact ⟨isIp.not_mem (by decide) (by decide) (by decide), by decide,
      not_mem_of_isDigit number.isDigit (by decide)⟩

theorem isSome_readScoped_iff {text : List Char} :
    (readScoped text).isSome = true ↔ IsScoped text := by
  have unscoped {ip : List Char} (isIp : IsIpv6 ip) : '%' ∉ ip :=
    isIp.not_mem (by decide) (by decide) (by decide)
  constructor
  · intro read
    unfold readScoped at read
    split at read
    case h_1 =>
      rw [Option.isSome_map] at read
      exact .inl (isSome_readIpv6_iff.mp read)
    case h_2 ip scope cut =>
      cases readIp : Ipv6.read ip with
      | none => simp [readIp] at read
      | some address =>
          cases readScope : Text.readBounded 4294967296 scope with
          | none => simp [readIp, readScope] at read
          | some number =>
              have isIp := isSome_readIpv6_iff.mp (Option.isSome_of_eq_some readIp)
              have isScope := isSome_readNumber_iff.mp (Option.isSome_of_eq_some readScope)
              exact .inr ⟨ip, scope, isIp, isScope, (splitAtFirst_eq_some_iff.mp cut).2⟩
  · rintro (isIp | ⟨ip, scope, isIp, isScope, rfl⟩)
    · rw [readScoped, splitAtFirst_of_not_mem (unscoped isIp), Option.isSome_map]
      exact isSome_readIpv6_iff.mpr isIp
    · rcases Option.isSome_iff_exists.mp (isSome_readIpv6_iff.mpr isIp) with ⟨address, readIp⟩
      rcases Option.isSome_iff_exists.mp (isSome_readNumber_iff.mpr isScope) with
        ⟨number, readScope⟩
      simp [readScoped, splitAtFirst_append (unscoped isIp), readIp, readScope]

theorem IsScoped.isSocketAddress {inside port : List Char} (isInside : IsScoped inside)
    (number : IsNumber 65536 port) : IsSocketAddress ('[' :: inside ++ ']' :: ':' :: port) := by
  rcases isInside with ip | ⟨ip, scope, isIp, isScope, rfl⟩
  · exact .v6 ip number
  · simpa using IsSocketAddress.v6Scoped isIp isScope number

/-- What the reader takes, and what it takes it for, by its pieces. -/
theorem read_cases {text : List Char} {address : SocketAddress}
    (found : read text = some address) :
    (∃ host digits ip port, text = host ++ ':' :: digits ∧ Ipv4.read host = some ip ∧
      Text.readBounded 65536 digits = some port ∧ address = v4 ip port) ∨
    ∃ inside digits ip scope port, text = '[' :: inside ++ ']' :: ':' :: digits ∧
      readScoped inside = some (ip, scope) ∧ Text.readBounded 65536 digits = some port ∧
      address = v6 ip scope port := by
  unfold read at found
  split at found
  case h_1 text =>
    rcases Option.bind_eq_some_iff.mp found with ⟨⟨inside, after⟩, cut, found⟩
    rcases Option.bind_eq_some_iff.mp found with ⟨⟨ip, scope⟩, readInside, found⟩
    dsimp only at cut found
    split at found
    case h_1 digits _ =>
      rcases Option.bind_eq_some_iff.mp found with ⟨port, readPort, same⟩
      cases same
      rw [(splitAtFirst_eq_some_iff.mp cut).2]
      exact .inr ⟨inside, digits, ip, scope, port, rfl, readInside, readPort, rfl⟩
    case h_2 => cases found
  case h_2 =>
    rcases Option.bind_eq_some_iff.mp found with ⟨⟨host, digits⟩, cut, found⟩
    rcases Option.bind_eq_some_iff.mp found with ⟨ip, readIp, found⟩
    rcases Option.bind_eq_some_iff.mp found with ⟨port, readPort, same⟩
    cases same
    exact .inl ⟨host, digits, ip, port, (splitAtLast_eq_some_iff.mp cut).2, readIp, readPort, rfl⟩

/-- What the reader takes has the syntax of a socket address. -/
theorem isSocketAddress_of_read {text : List Char} (isRead : (read text).isSome = true) :
    IsSocketAddress text := by
  rcases Option.isSome_iff_exists.mp isRead with ⟨address, found⟩
  rcases read_cases found with ⟨host, digits, ip, port, rfl, readIp, readPort, -⟩ |
    ⟨inside, digits, ip, scope, port, rfl, readInside, readPort, -⟩
  · exact .v4 (isSome_readIpv4_iff.mp (Option.isSome_of_eq_some readIp))
      (isSome_readNumber_iff.mp (Option.isSome_of_eq_some readPort))
  · exact (isSome_readScoped_iff.mp (Option.isSome_of_eq_some readInside)).isSocketAddress
      (isSome_readNumber_iff.mp (Option.isSome_of_eq_some readPort))

theorem IsScoped.isSome_read {inside port : List Char} (isInside : IsScoped inside)
    (number : IsNumber 65536 port) :
    (read ('[' :: inside ++ ']' :: ':' :: port)).isSome = true := by
  rcases Option.isSome_iff_exists.mp (isSome_readScoped_iff.mpr isInside) with
    ⟨address, readInside⟩
  rcases Option.isSome_iff_exists.mp (isSome_readNumber_iff.mpr number) with ⟨value, readPort⟩
  simp [read, splitAtFirst_append isInside.bracket_not_mem, readInside, readPort]

theorem isSome_read_iff {text : List Char} :
    (read text).isSome = true ↔ IsSocketAddress text := by
  refine ⟨isSocketAddress_of_read, ?_⟩
  intro address
  cases address with
  | @v4 ip port isIp number =>
      have unopened : '[' ∉ ip ++ ':' :: port := by
        simp only [List.mem_append, List.mem_cons, not_or]
        exact ⟨isIp.not_mem (by decide) (by decide), by decide,
          not_mem_of_isDigit number.isDigit (by decide)⟩
      have uncut : ':' ∉ port := not_mem_of_isDigit number.isDigit (by decide)
      rcases Option.isSome_iff_exists.mp (isSome_readIpv4_iff.mpr isIp) with ⟨address, readIp⟩
      rcases Option.isSome_iff_exists.mp (isSome_readNumber_iff.mpr number) with ⟨value, readPort⟩
      unfold read
      split
      case h_1 opened =>
        rw [opened] at unopened
        exact absurd List.mem_cons_self unopened
      case h_2 => simp [splitAtLast_append uncut, readIp, readPort]
  | v6 isIp number =>
      have isInside : IsScoped _ := .inl isIp
      exact isInside.isSome_read number
  | v6Scoped isIp isScope number =>
      have isInside : IsScoped _ := .inr ⟨_, _, isIp, isScope, rfl⟩
      simpa using isInside.isSome_read number

theorem isSome_ofString?_iff {text : String} :
    (ofString? text).isSome = true ↔ IsSocketAddress text.toList :=
  isSome_read_iff

example : IsSocketAddress "[::ffff:10.0.0.1%7]:0080".toList := isSome_read_iff.mp (by decide)

end SocketAddress

end MeshControl.Net
