import MeshControl.Net.Ip.Printer
import MeshControl.Net.Ip.Reader
import MeshControl.Proofs.Text.Numerals

/-!
Addresses survive being written and read.

An address has many texts, and the writer picks one of them; the reader is shown to take that one
back to the address. The numbers of a text never contain the marks between them, so that cutting at
the marks gives back the numbers. A double colon is found where it was written because no number is
empty: two colons never meet elsewhere. What the double colon stands for is then known from the
number of groups alone, and it does not matter which run of zeros the writer chose to leave out.

Main statement: `IpAddress.read_write`.
-/

namespace MeshControl.Net

/-! ## Parts and marks -/

/-- Joined parts hold the mark between them and what the parts hold. -/
theorem mem_of_mem_intercalate {mark character : Char} {parts : List (List Char)}
    (member : character ∈ List.intercalate [mark] parts) :
    character = mark ∨ ∃ part ∈ parts, character ∈ part := by
  induction parts with
  | nil => simp at member
  | cons part rest tail =>
    cases rest with
    | nil =>
      rw [List.intercalate_singleton] at member
      exact .inr ⟨part, List.mem_cons_self, member⟩
    | cons next others =>
      rw [List.intercalate_cons_cons, List.append_assoc, List.mem_append, List.mem_append,
        List.mem_singleton] at member
      rcases member with here | same | later
      · exact .inr ⟨part, List.mem_cons_self, here⟩
      · exact .inl same
      · rcases tail later with same | ⟨found, within, member⟩
        · exact .inl same
        · exact .inr ⟨found, List.mem_cons_of_mem part within, member⟩

/-- A list of one value throughout is a repetition of it. -/
theorem eq_replicate_of_all {Value : Type} [BEq Value] [LawfulBEq Value] {value : Value}
    {values : List Value} (all : values.all (· == value) = true) :
    values = List.replicate values.length value := by
  refine List.eq_replicate_iff.mpr ⟨rfl, ?_⟩
  intro member within
  exact beq_iff_eq.mp (List.all_eq_true.mp all member within)

/-! ## Version 4 -/

theorem readOctet_decimal (octet : Fin 256) :
    readOctet (Text.decimal octet.val) = some octet := by
  have short : (Text.decimal octet.val).length ≤ 3 :=
    (Nat.length_toDigits_le_iff (by decide) (by decide)).mpr (by omega)
  have bare : ¬(1 < (Text.decimal octet.val).length ∧
      (Text.decimal octet.val).head? = some '0') := by
    rintro ⟨long, zero⟩
    rw [Text.eq_zero_of_head_decimal zero] at long
    exact absurd long (by decide)
  rw [readOctet, if_neg (not_or.mpr ⟨Nat.not_lt.mpr short, bare⟩), Text.readBounded_decimal]

theorem Ipv4.read_write (address : Ipv4) : Ipv4.read address.write = some address := by
  have pieces : address.write.splitOn '.' =
      address.octets.map fun octet => Text.decimal octet.val := by
    apply List.splitOn_intercalate
    · intro part written
      obtain ⟨octet, -, rfl⟩ := List.mem_map.mp written
      exact Text.not_mem_decimal (by decide)
    · intro empty
      have count := address.length_octets
      rw [List.map_eq_nil_iff.mp empty] at count
      cases count
  simp [Ipv4.read, pieces, Text.mapM_map_of_reads readOctet_decimal, address.length_octets]

/-- The text of an IPv4 address holds digits and dots. -/
theorem Ipv4.mem_write {address : Ipv4} {character : Char}
    (member : character ∈ address.write) : character.isDigit = true ∨ character = '.' := by
  rcases mem_of_mem_intercalate member with same | ⟨part, written, member⟩
  · exact .inr same
  · obtain ⟨octet, -, rfl⟩ := List.mem_map.mp written
    exact .inl (Text.isDigit_of_mem_decimal member)

theorem Ipv4.not_mem_write {address : Ipv4} {mark : Char} (other : mark.isDigit = false)
    (noDot : mark ≠ '.') : mark ∉ address.write := by
  intro member
  rcases Ipv4.mem_write member with digit | dot
  · rw [digit] at other
    cases other
  · exact noDot dot

/-- What is read as one octet is digits throughout. -/
theorem isDigit_of_readOctet {text : List Char} (read : (readOctet text).isSome = true) :
    text.all Char.isDigit = true := by
  unfold readOctet Text.readBounded Text.readDigits at read
  grind

/-- If every part of a list is read, each of them is. -/
theorem isSome_of_mapM {Source Value : Type} {read : Source → Option Value}
    {parts : List Source} (all : (parts.mapM read).isSome = true) :
    ∀ part ∈ parts, (read part).isSome = true := by
  induction parts with
  | nil => simp
  | cons part rest tail =>
    cases first : read part with
    | none => simp [first] at all
    | some value =>
      cases others : rest.mapM read with
      | none => simp [first, others] at all
      | some values =>
        rw [others] at tail
        simpa [first] using tail rfl

/-- A text that holds anything but digits and dots is no IPv4 address. -/
theorem Ipv4.read_of_mem {text : List Char} {character : Char} (member : character ∈ text)
    (other : character.isDigit = false) (noDot : character ≠ '.') : Ipv4.read text = none := by
  have joined : List.intercalate ['.'] (text.splitOn '.') = text := List.intercalate_splitOn '.'
  rw [← joined] at member
  rcases mem_of_mem_intercalate member with same | ⟨part, within, member⟩
  · exact absurd same noDot
  · cases read : (text.splitOn '.').mapM readOctet with
    | none => simp [Ipv4.read, read]
    | some octets =>
      have digits := isDigit_of_readOctet (isSome_of_mapM (by rw [read]; rfl) part within)
      rw [List.all_eq_true.mp digits character member] at other
      cases other

/-- A text without dots is no IPv4 address. -/
theorem Ipv4.read_of_undotted {text : List Char} (undotted : '.' ∉ text) :
    Ipv4.read text = none := by
  cases octet : readOctet text <;>
    simp [Ipv4.read, List.splitOn_eq_singleton undotted, octet]

/-! ## Groups -/

theorem readGroup_hexadecimal (group : Fin 65536) :
    readGroup (Text.hexadecimal group.val) = some group := by
  have short : (Text.hexadecimal group.val).length ≤ 4 :=
    (Nat.length_toDigits_le_iff (by decide) (by decide)).mpr (by omega)
  rw [readGroup, if_neg (Nat.not_lt.mpr short), Text.readHexadecimal_hexadecimal,
    Option.map_some, Fin.ofNat_val_eq_self]

/-- A written group is no IPv4 address, so that it is read as a group even in the last place. -/
theorem Ipv4.read_hexadecimal (value : Nat) : Ipv4.read (Text.hexadecimal value) = none :=
  Ipv4.read_of_undotted (Text.not_mem_hexadecimal (by decide))

theorem readGroups_map (groups : List (Fin 65536)) :
    readGroups (groups.map fun group => Text.hexadecimal group.val) = some groups := by
  induction groups with
  | nil => rfl
  | cons group rest tail =>
    cases rest with
    | nil => simp [readGroups, Ipv4.read_hexadecimal, readGroup_hexadecimal]
    | cons next others =>
      rw [List.map_cons] at tail
      simp [readGroups, readGroup_hexadecimal, tail]

theorem writeGroups_cons_cons (group next : Fin 65536) (rest : List (Fin 65536)) :
    writeGroups (group :: next :: rest) =
      Text.hexadecimal group.val ++ ':' :: writeGroups (next :: rest) := by
  simp [writeGroups, List.intercalate_cons_cons]

/-- Written groups begin with a digit. -/
theorem writeGroups_head (group : Fin 65536) (rest : List (Fin 65536)) :
    ∃ digit text, writeGroups (group :: rest) = digit :: text ∧ digit ≠ ':' := by
  have filled : Text.hexadecimal group.val ≠ [] := Nat.toDigits_ne_nil
  obtain ⟨digit, digits, written⟩ := List.exists_cons_of_ne_nil filled
  have first : digit ≠ ':' := by
    rintro rfl
    have marked : ':' ∈ Text.hexadecimal group.val := written ▸ List.mem_cons_self
    exact Text.not_mem_hexadecimal (by decide) marked
  cases rest with
  | nil => exact ⟨digit, digits, by simp [writeGroups, written], first⟩
  | cons next others =>
    refine ⟨digit, digits ++ ':' :: writeGroups (next :: others), ?_, first⟩
    rw [writeGroups_cons_cons, written, List.cons_append]

@[simp]
theorem writeGroups_eq_nil (groups : List (Fin 65536)) :
    writeGroups groups = [] ↔ groups = [] := by
  cases groups with
  | nil => simp [writeGroups]
  | cons group rest =>
    obtain ⟨digit, text, written, -⟩ := writeGroups_head group rest
    simp [written]

/-- Cutting written groups at their colons gives back their digits. -/
theorem splitOn_writeGroups {groups : List (Fin 65536)} (filled : groups ≠ []) :
    (writeGroups groups).splitOn ':' =
      groups.map fun group => Text.hexadecimal group.val := by
  apply List.splitOn_intercalate
  · intro part written
    obtain ⟨group, -, rfl⟩ := List.mem_map.mp written
    exact Text.not_mem_hexadecimal (by decide)
  · exact mt List.map_eq_nil_iff.mp filled

theorem mapM_readGroup_writeGroups {groups : List (Fin 65536)} (filled : groups ≠ []) :
    ((writeGroups groups).splitOn ':').mapM readGroup = some groups := by
  rw [splitOn_writeGroups filled, Text.mapM_map_of_reads readGroup_hexadecimal]

theorem readSide_writeGroups (groups : List (Fin 65536)) :
    readSide (writeGroups groups) = some groups := by
  by_cases empty : groups = []
  · simp [readSide, empty]
  · simp [readSide, empty, splitOn_writeGroups empty, readGroups_map]

/-! ## The double colon -/

/-- No double colon begins before the first colon. -/
theorem splitAtGap_append {part : List Char} (clear : ':' ∉ part) (rest : List Char) :
    splitAtGap (part ++ rest) =
      (splitAtGap rest).map fun sides => (part ++ sides.1, sides.2) := by
  induction part with
  | nil => simp
  | cons character part tail =>
    obtain ⟨other, clear⟩ := not_or.mp (mt List.mem_cons.mpr clear)
    rw [List.cons_append, splitAtGap, tail clear, Option.map_map]
    · rfl
    · intro after same
      exact absurd same.symm other

/-- A colon before anything but a colon is an ordinary one. -/
theorem splitAtGap_colon {character : Char} (other : character ≠ ':') (rest : List Char) :
    splitAtGap (':' :: character :: rest) =
      (splitAtGap (character :: rest)).map fun sides => (':' :: sides.1, sides.2) := by
  rw [splitAtGap]
  intro after _ same
  exact other (List.cons.inj same).1

/-- Written groups have no double colon of their own, and none at their end. -/
theorem splitAtGap_writeGroups (groups : List (Fin 65536)) (rest : List Char) :
    splitAtGap (writeGroups groups ++ rest) =
      (splitAtGap rest).map fun sides => (writeGroups groups ++ sides.1, sides.2) := by
  have clear : ∀ group : Fin 65536, ':' ∉ Text.hexadecimal group.val := by
    intro group
    exact Text.not_mem_hexadecimal (by decide)
  induction groups with
  | nil => simp [writeGroups]
  | cons group others tail =>
    cases others with
    | nil =>
      have alone : writeGroups [group] = Text.hexadecimal group.val := by simp [writeGroups]
      rw [alone]
      exact splitAtGap_append (clear group) rest
    | cons next others =>
      obtain ⟨digit, text, written, other⟩ := writeGroups_head next others
      rw [written] at tail
      rw [writeGroups_cons_cons, written, List.append_assoc,
        splitAtGap_append (clear group), List.cons_append, List.cons_append,
        splitAtGap_colon other, ← List.cons_append, tail, Option.map_map, Option.map_map]
      simp [Function.comp_def]

/-! ## The longest run of zeros -/

theorem leadingZeros_spec (groups : List (Fin 65536)) :
    groups = List.replicate (leadingZeros groups) 0 ++ groups.dropWhile (· == 0) := by
  have zeros : groups.takeWhile (· == 0) = List.replicate (leadingZeros groups) 0 :=
    eq_replicate_of_all List.all_takeWhile
  rw [← zeros, List.takeWhile_append_dropWhile]

/-- The run that is found lies where it is said to lie, whether or not it is the longest. -/
theorem longestZeroRun_spec (position : Nat) (groups : List (Fin 65536)) :
    ∃ front back,
      groups = front ++ List.replicate (longestZeroRun position groups).length 0 ++ back ∧
        (longestZeroRun position groups).start = position + front.length := by
  induction groups generalizing position with
  | nil => exact ⟨[], [], rfl, rfl⟩
  | cons group rest tail =>
    rw [longestZeroRun]
    split
    · obtain ⟨front, back, parts, start⟩ := tail (position + 1)
      refine ⟨group :: front, back, ?_, ?_⟩
      · rw [List.cons_append, List.cons_append, ← parts]
      · rw [start, List.length_cons, Nat.add_assoc, Nat.add_comm 1]
    · exact ⟨[], _, leadingZeros_spec (group :: rest), rfl⟩

/-! ## Version 6 -/

theorem Ipv6.ofGroups_groups (address : Ipv6) :
    Ipv6.ofGroups address.groups = some address := by
  rw [Ipv6.ofGroups, dif_pos address.length_groups]

/-- A double colon is read as the zeros that were left out at it, if there were any. -/
theorem Ipv6.read_gap {address : Ipv6} {front back : List (Fin 65536)} {text after : List Char}
    {zeros : Nat} (parts : address.groups = front ++ List.replicate zeros 0 ++ back)
    (omitted : 0 < zeros) (cut : splitAtGap text = some (writeGroups front, after))
    (read : readSide after = some back) : Ipv6.read text = some address := by
  have eight := address.length_groups
  rw [parts, List.length_append, List.length_append, List.length_replicate] at eight
  have missing : 8 - (front.length + back.length) = zeros := by omega
  have room : front.length + back.length < 8 := by omega
  have whole : Ipv6.ofGroups (front ++ (List.replicate zeros 0 ++ back)) = some address := by
    rw [← List.append_assoc, ← parts, address.ofGroups_groups]
  by_cases empty : front = []
  · simp only [empty, List.length_nil, List.nil_append, Nat.zero_add] at missing room whole
    simp [Ipv6.read, cut, read, empty, missing, room, whole]
  · simp [Ipv6.read, cut, read, empty, mapM_readGroup_writeGroups empty, missing, room, whole]

theorem Ipv6.read_writeCompressed (address : Ipv6) :
    Ipv6.read address.writeCompressed = some address := by
  obtain ⟨front, back, parts, start⟩ := longestZeroRun_spec 0 address.groups
  rw [Nat.zero_add] at start
  unfold Ipv6.writeCompressed
  simp only
  split
  case isTrue long =>
    generalize longestZeroRun 0 address.groups = run at parts start long
    have before : address.groups.take run.start = front := by
      rw [parts, start, List.append_assoc, List.take_left]
    have after : address.groups.drop (run.start + run.length) = back := by
      rw [parts, start, List.drop_left' (by simp)]
    rw [before, after]
    refine Ipv6.read_gap parts (by omega) ?_ (readSide_writeGroups back)
    rw [List.append_assoc, splitAtGap_writeGroups]
    simp [splitAtGap]
  case isFalse =>
    have ungapped := splitAtGap_writeGroups address.groups []
    rw [List.append_nil] at ungapped
    have filled : address.groups ≠ [] := by
      intro empty
      have eight := address.length_groups
      rw [empty] at eight
      cases eight
    simp [Ipv6.read, ungapped, splitAtGap, splitOn_writeGroups filled, readGroups_map,
      address.ofGroups_groups]

/-- A mapped address ends in the two groups of the IPv4 address. -/
theorem Ipv6.groups_of_mapped {address : Ipv6} {inner : Ipv4}
    (mapped : address.mapped = some inner) :
    address.groups = [] ++ List.replicate 5 0 ++ 0xffff :: inner.toGroups := by
  unfold Ipv6.mapped at mapped
  split at mapped
  case h_1 upper lower groups =>
    have whole : ∀ group : Fin 65536,
        group = Fin.ofNat 65536 (256 * (group.val / 256 % 256) + group.val % 256) := by
      intro group
      apply Fin.ext
      simp only [Fin.ofNat]
      omega
    cases mapped
    rw [groups]
    simpa [Ipv4.toGroups, List.replicate_succ] using ⟨whole upper, whole lower⟩
  case h_2 => cases mapped

/-- The tail of a mapped address is read as an IPv4 address, which no group is. -/
theorem Ipv6.read_mapped {address : Ipv6} {inner : Ipv4}
    (mapped : address.mapped = some inner) :
    Ipv6.read ("::ffff:".toList ++ inner.write) = some address := by
  have marker : readGroup ['f', 'f', 'f', 'f'] = some 0xffff := by decide
  have pieces : (['f', 'f', 'f', 'f'] ++ ':' :: inner.write).splitOn ':' =
      [['f', 'f', 'f', 'f'], inner.write] := by
    have unmarked : ∀ part ∈ [['f', 'f', 'f', 'f'], inner.write], ':' ∉ part := by
      simp only [List.forall_mem_cons, List.not_mem_nil, false_imp_iff, implies_true, and_true]
      exact ⟨by decide, Ipv4.not_mem_write (by decide) (by decide)⟩
    have joined := List.splitOn_intercalate ':' unmarked (List.cons_ne_nil _ _)
    simpa [List.intercalate_cons_cons] using joined
  have tail : readSide (['f', 'f', 'f', 'f'] ++ ':' :: inner.write) =
      some (0xffff :: inner.toGroups) := by
    rw [readSide, pieces]
    simp [readGroups, marker, inner.read_write]
  have cut : splitAtGap ("::ffff:".toList ++ inner.write) =
      some (writeGroups [], ['f', 'f', 'f', 'f'] ++ ':' :: inner.write) := by
    simp [splitAtGap, writeGroups]
  exact Ipv6.read_gap (Ipv6.groups_of_mapped mapped) (by decide) cut tail

theorem Ipv6.read_write (address : Ipv6) : Ipv6.read address.write = some address := by
  unfold Ipv6.write
  split
  case h_1 inner mapped => exact Ipv6.read_mapped mapped
  case h_2 => exact address.read_writeCompressed

theorem mem_writeGroups {groups : List (Fin 65536)} {character : Char}
    (member : character ∈ writeGroups groups) :
    (Text.hexValue character).isSome = true ∨ character = ':' := by
  rcases mem_of_mem_intercalate member with same | ⟨part, written, member⟩
  · exact .inr same
  · obtain ⟨group, -, rfl⟩ := List.mem_map.mp written
    exact .inl (Text.hexValue_isSome_of_mem_hexadecimal member)

/-- The text of an IPv6 address holds digits, colons and dots. -/
theorem Ipv6.mem_write {address : Ipv6} {character : Char} (member : character ∈ address.write) :
    (Text.hexValue character).isSome = true ∨ character = ':' ∨ character = '.' := by
  unfold Ipv6.write Ipv6.writeCompressed at member
  split at member
  case h_1 inner mapped =>
    rcases List.mem_append.mp member with marker | member
    · have mark : character = ':' ∨ character = 'f' := by
        simp at marker
        grind
      rcases mark with rfl | rfl
      · exact .inr (.inl rfl)
      · exact .inl (by decide)
    · rcases Ipv4.mem_write member with digit | dot
      · exact .inl (Text.hexValue_isSome_of_isDigit digit)
      · exact .inr (.inr dot)
  case h_2 =>
    have grouped : ∀ groups, character ∈ writeGroups groups →
        (Text.hexValue character).isSome = true ∨ character = ':' ∨ character = '.' := by
      intro groups member
      exact (mem_writeGroups member).imp_right .inl
    simp only at member
    split at member
    · rcases List.mem_append.mp member with member | back
      · rcases List.mem_append.mp member with front | gap
        · exact grouped _ front
        · exact .inr (.inl (by simpa using gap))
      · exact grouped _ back
    · exact grouped _ member

theorem Ipv6.not_mem_write {address : Ipv6} {mark : Char}
    (other : (Text.hexValue mark).isSome = false) (noColon : mark ≠ ':') (noDot : mark ≠ '.') :
    mark ∉ address.write := by
  intro member
  rcases Ipv6.mem_write member with digit | colon | dot
  · rw [digit] at other
    cases other
  · exact noColon colon
  · exact noDot dot

/-- The text of an IPv6 address holds a colon, which no IPv4 address does. -/
theorem Ipv6.colon_mem_write (address : Ipv6) : ':' ∈ address.write := by
  unfold Ipv6.write Ipv6.writeCompressed
  split
  · exact List.mem_append_left _ (by decide)
  · simp only
    split
    · simp
    · have eight := address.length_groups
      match groups : address.groups with
      | [] | [_] => simp [groups] at eight
      | group :: next :: rest => simp [writeGroups_cons_cons]

/-! ## Either version -/

theorem IpAddress.read_write (address : IpAddress) :
    IpAddress.read address.write = some address := by
  cases address with
  | v4 address => simp [IpAddress.read, IpAddress.write, address.read_write]
  | v6 address =>
    have foreign : Ipv4.read address.write = none :=
      Ipv4.read_of_mem address.colon_mem_write (by decide) (by decide)
    simp [IpAddress.read, IpAddress.write, foreign, address.read_write]

end MeshControl.Net
