import MeshControl.Proofs.Net.IpText

/-!
The spellings of an IPv6 address.

An address has many texts: its digits in either case, with or without zeros in front of them, a double
colon in the place of any zero groups, and an IPv4 address in the place of the last two. All of them
are collected in a relation between texts and addresses that says how a text is put together and what
is meant by it. The reader is shown to compute this relation, so that no text is a spelling of two
addresses. An IPv4 address is not like that: the reader takes nothing but its one text.

The marks between two pieces are in neither of them. This is all that it takes to find the pieces
again. Only the double colon is made of marks that also occur alone; it is found first because no
group is empty.

Main statement: `Ipv6.read_eq_some_iff`.
-/

namespace MeshControl.Net

/-! ## The relation -/

/-- A group is spelled in at most four hexadecimal digits, which may have either case and zeros in
front. -/
def SpellsGroup (text : List Char) (group : Fin 65536) : Prop :=
  text.length ≤ 4 ∧
    ∃ zeros, text.map Char.toLower = List.replicate zeros '0' ++ Text.hexadecimal group.val

/-- Groups are separated by colons. -/
inductive SpellsGroups : List Char → List (Fin 65536) → Prop where
  | last {text : List Char} {group : Fin 65536} :
      SpellsGroup text group → SpellsGroups text [group]
  | more {text rest : List Char} {group : Fin 65536} {groups : List (Fin 65536)} :
      SpellsGroup text group → SpellsGroups rest groups →
        SpellsGroups (text ++ ':' :: rest) (group :: groups)

/-- The last two groups may be spelled as an IPv4 address. -/
inductive SpellsTail : List Char → List (Fin 65536) → Prop where
  | last {text : List Char} {group : Fin 65536} :
      SpellsGroup text group → SpellsTail text [group]
  | ipv4 (ip : Ipv4) : SpellsTail ip.write ip.toGroups
  | more {text rest : List Char} {group : Fin 65536} {groups : List (Fin 65536)} :
      SpellsGroup text group → SpellsTail rest groups →
        SpellsTail (text ++ ':' :: rest) (group :: groups)

/-- An address is spelled in all of its groups, or with a double colon in the place of zero groups. -/
inductive Spells : List Char → Ipv6 → Prop where
  | full {text : List Char} {ip : Ipv6} : SpellsTail text ip.groups → Spells text ip
  | gap {front back : List Char} {before after : List (Fin 65536)} {zeros : Nat} {ip : Ipv6} :
      before = [] ∧ front = [] ∨ SpellsGroups front before →
      after = [] ∧ back = [] ∨ SpellsTail back after →
      0 < zeros → ip.groups = before ++ List.replicate zeros 0 ++ after →
        Spells (front ++ ':' :: ':' :: back) ip

/-! ## Version 4 -/

theorem eq_decimal_of_readOctet {text : List Char} {octet : Fin 256}
    (read : readOctet text = some octet) : text = Text.decimal octet.val := by
  unfold readOctet at read
  split_ifs at read with padded
  rcases Text.readBounded_eq_some_iff.mp read with ⟨zeros, rfl⟩
  -- A zero in front of a number, which is never empty, is what the reader rules out.
  cases zeros with
  | zero => rfl
  | succ zeros =>
      have filled : 0 < (Text.decimal octet.val).length := Nat.length_toDigits_pos
      refine absurd (.inr ⟨?_, rfl⟩) padded
      simp only [List.length_append, List.length_replicate]
      omega

/-- The reader of an IPv4 address takes its one text and no other. -/
theorem Ipv4.read_eq_some_iff {text : List Char} {ip : Ipv4} :
    Ipv4.read text = some ip ↔ text = ip.write := by
  constructor
  · intro read
    rcases Option.bind_eq_some_iff.mp read with ⟨octets, readOctets, read⟩
    split_ifs at read
    cases read
    have parts := Text.eq_map_of_mapM eq_decimal_of_readOctet readOctets
    rw [Ipv4.write, ← parts, List.intercalate_splitOn]
  · rintro rfl
    exact ip.read_write

theorem Ipv4.write_ne_nil (ip : Ipv4) : ip.write ≠ [] := by
  have nothing : Ipv4.read [] = none := by decide
  intro empty
  have read := ip.read_write
  rw [empty, nothing] at read
  cases read

/-! ## Groups -/

/-- Four digits are enough for every group, and for no number beyond. -/
theorem lt_of_readHexadecimal {text : List Char} {value : Nat} (short : text.length ≤ 4)
    (read : Text.readHexadecimal text = some value) : value < 65536 := by
  rcases Text.readHexadecimal_eq_some_iff.mp read with ⟨zeros, written⟩
  have lengths := congrArg List.length written
  rw [List.length_map, List.length_append, List.length_replicate] at lengths
  have digits : (Text.hexadecimal value).length ≤ 4 := by omega
  exact (Nat.length_toDigits_le_iff (by decide) (by decide)).mp digits

theorem readGroup_eq_some_iff {text : List Char} {group : Fin 65536} :
    readGroup text = some group ↔ SpellsGroup text group := by
  unfold readGroup SpellsGroup
  split_ifs with long
  · simp [Nat.not_le_of_lt long]
  · have short := Nat.le_of_not_lt long
    simp only [short, true_and, ← Text.readHexadecimal_eq_some_iff, Option.map_eq_some_iff]
    constructor
    · rintro ⟨value, read, rfl⟩
      rw [Fin.val_ofNat, Nat.mod_eq_of_lt (lt_of_readHexadecimal short read)]
      exact read
    · intro read
      exact ⟨group.val, read, Fin.ofNat_val_eq_self group⟩

/-- A mark that has no value does not occur in a group. -/
theorem SpellsGroup.not_mem {text : List Char} {group : Fin 65536} (spelled : SpellsGroup text group)
    {mark : Char} (other : (Text.hexValue mark).isSome = false) : mark ∉ text := by
  intro member
  have read := Text.readHexadecimal_eq_some_iff.mpr spelled.2
  have known := (Text.isSome_readHexadecimal_iff.mp (Option.isSome_of_eq_some read)).2 mark member
  rw [known] at other
  cases other

theorem SpellsGroup.colon_not_mem {text : List Char} {group : Fin 65536}
    (spelled : SpellsGroup text group) : ':' ∉ text :=
  spelled.not_mem (by decide)

theorem SpellsGroup.read_ipv4 {text : List Char} {group : Fin 65536}
    (spelled : SpellsGroup text group) : Ipv4.read text = none :=
  Ipv4.read_of_undotted (spelled.not_mem (by decide))

theorem SpellsGroup.ne_nil {text : List Char} {group : Fin 65536}
    (spelled : SpellsGroup text group) : text ≠ [] := by
  have read := Text.readHexadecimal_eq_some_iff.mpr spelled.2
  exact (Text.isSome_readHexadecimal_iff.mp (Option.isSome_of_eq_some read)).1

theorem SpellsGroups.spellsTail {text : List Char} {groups : List (Fin 65536)}
    (spelled : SpellsGroups text groups) : SpellsTail text groups := by
  induction spelled with
  | last group => exact .last group
  | more group _ tail => exact .more group tail

theorem spellsGroups_of_mapM {parts : List (List Char)} {groups : List (Fin 65536)}
    (filled : parts ≠ []) (read : parts.mapM readGroup = some groups) :
    SpellsGroups (List.intercalate [':'] parts) groups := by
  induction parts generalizing groups with
  | nil => exact absurd rfl filled
  | cons part rest ih =>
      rw [List.mapM_cons] at read
      rcases Option.bind_eq_some_iff.mp read with ⟨group, first, read⟩
      rcases Option.bind_eq_some_iff.mp read with ⟨others, later, same⟩
      cases same
      have spelled := readGroup_eq_some_iff.mp first
      cases rest with
      | nil =>
          cases later
          rw [List.intercalate_singleton]
          exact .last spelled
      | cons next rest =>
          rw [List.intercalate_cons_cons, List.append_assoc, List.singleton_append]
          exact .more spelled (ih (List.cons_ne_nil next rest) later)

theorem mapM_readGroup_eq_some_iff {text : List Char} {groups : List (Fin 65536)} :
    (text.splitOn ':').mapM readGroup = some groups ↔ SpellsGroups text groups := by
  constructor
  · intro read
    have spelled := spellsGroups_of_mapM (List.splitOn_ne_nil ':' text) read
    rwa [List.intercalate_splitOn] at spelled
  · intro spelled
    induction spelled with
    | last group =>
        rw [List.splitOn_eq_singleton group.colon_not_mem]
        simp [readGroup_eq_some_iff.mpr group]
    | more group _ ih =>
        rw [List.splitOn_append_cons_self_of_not_mem group.colon_not_mem, List.mapM_cons, ih,
          readGroup_eq_some_iff.mpr group]
        rfl

theorem spellsTail_of_readGroups {parts : List (List Char)} {groups : List (Fin 65536)}
    (filled : parts ≠ []) (read : readGroups parts = some groups) :
    SpellsTail (List.intercalate [':'] parts) groups := by
  induction parts generalizing groups with
  | nil => exact absurd rfl filled
  | cons part rest ih =>
      cases rest with
      | nil =>
          rw [List.intercalate_singleton]
          rw [readGroups] at read
          split at read
          case h_1 ip found =>
            cases read
            rw [Ipv4.read_eq_some_iff.mp found]
            exact .ipv4 ip
          case h_2 =>
            rcases Option.map_eq_some_iff.mp read with ⟨group, found, rfl⟩
            exact .last (readGroup_eq_some_iff.mp found)
      | cons next rest =>
          rw [List.intercalate_cons_cons, List.append_assoc, List.singleton_append]
          rw [readGroups] at read
          · rcases Option.bind_eq_some_iff.mp read with ⟨group, found, others⟩
            rcases Option.bind_eq_some_iff.mp others with ⟨tail, readTail, same⟩
            cases same
            exact .more (readGroup_eq_some_iff.mp found) (ih (List.cons_ne_nil next rest) readTail)
          · exact List.cons_ne_nil next rest

/-- Groups that an IPv4 address may end are read together. -/
theorem readGroups_eq_some_iff {text : List Char} {groups : List (Fin 65536)} :
    readGroups (text.splitOn ':') = some groups ↔ SpellsTail text groups := by
  constructor
  · intro read
    have spelled := spellsTail_of_readGroups (List.splitOn_ne_nil ':' text) read
    rwa [List.intercalate_splitOn] at spelled
  · intro spelled
    induction spelled with
    | last group =>
        rw [List.splitOn_eq_singleton group.colon_not_mem]
        simp [readGroups, group.read_ipv4, readGroup_eq_some_iff.mpr group]
    | ipv4 ip =>
        rw [List.splitOn_eq_singleton (Ipv4.not_mem_write (by decide) (by decide))]
        simp [readGroups, ip.read_write]
    | @more text rest group groups first _ ih =>
        rw [List.splitOn_append_cons_self_of_not_mem first.colon_not_mem]
        rcases List.exists_cons_of_ne_nil (List.splitOn_ne_nil ':' rest) with ⟨next, others, parts⟩
        rw [parts] at ih ⊢
        simp [readGroups, readGroup_eq_some_iff.mpr first, ih]

/-! ## The double colon -/

theorem SpellsTail.head {text : List Char} {groups : List (Fin 65536)}
    (spelled : SpellsTail text groups) : ∃ first others, text = first :: others ∧ first ≠ ':' := by
  have clear {text : List Char} (filled : text ≠ []) (clear : ':' ∉ text) :
      ∃ first others, text = first :: others ∧ first ≠ ':' := by
    rcases List.exists_cons_of_ne_nil filled with ⟨first, others, rfl⟩
    exact ⟨first, others, rfl, fun same => clear (same ▸ List.mem_cons_self)⟩
  cases spelled with
  | last group => exact clear group.ne_nil group.colon_not_mem
  | ipv4 ip => exact clear ip.write_ne_nil (Ipv4.not_mem_write (by decide) (by decide))
  | more group _ =>
      rcases clear group.ne_nil group.colon_not_mem with ⟨first, others, rfl, other⟩
      exact ⟨first, _, List.cons_append, other⟩

/-- A double colon is looked for behind groups, which have none of their own. -/
theorem SpellsTail.splitAtGap {text : List Char} {groups : List (Fin 65536)}
    (spelled : SpellsTail text groups) (rest : List Char) :
    splitAtGap (text ++ rest) =
      (splitAtGap rest).map fun sides => (text ++ sides.1, sides.2) := by
  induction spelled with
  | last group => exact splitAtGap_append group.colon_not_mem rest
  | ipv4 ip => exact splitAtGap_append (Ipv4.not_mem_write (by decide) (by decide)) rest
  | more group tail ih =>
      rcases tail.head with ⟨first, others, rfl, other⟩
      rw [List.append_assoc, splitAtGap_append group.colon_not_mem, List.cons_append,
        List.cons_append, splitAtGap_colon other, ← List.cons_append, ih, Option.map_map,
        Option.map_map]
      simp only [Function.comp_def, List.append_assoc, List.cons_append]

theorem eq_of_splitAtGap {text front back : List Char}
    (cut : splitAtGap text = some (front, back)) : text = front ++ ':' :: ':' :: back := by
  induction text using splitAtGap.induct generalizing front with
  | case1 => cases cut
  | case2 rest =>
      cases cut
      rfl
  | case3 first rest _ ih =>
      rw [splitAtGap] at cut
      · rcases Option.map_eq_some_iff.mp cut with ⟨⟨before, after⟩, found, same⟩
        cases same
        rw [ih found, List.cons_append]
      · assumption

/-- The groups before a double colon; there may be none. -/
def readFront (text : List Char) : Option (List (Fin 65536)) :=
  if text.isEmpty then some [] else (text.splitOn ':').mapM readGroup

theorem readFront_eq_some_iff {text : List Char} {groups : List (Fin 65536)} :
    readFront text = some groups ↔ groups = [] ∧ text = [] ∨ SpellsGroups text groups := by
  by_cases empty : text = []
  · have none : ¬ SpellsGroups [] groups := by
      intro spelled
      rcases spelled.spellsTail.head with ⟨first, others, same, -⟩
      cases same
    simp [readFront, empty, none, eq_comm]
  · simp [readFront, empty, mapM_readGroup_eq_some_iff]

theorem readSide_eq_some_iff {text : List Char} {groups : List (Fin 65536)} :
    readSide text = some groups ↔ groups = [] ∧ text = [] ∨ SpellsTail text groups := by
  by_cases empty : text = []
  · have none : ¬ SpellsTail [] groups := by
      intro spelled
      rcases spelled.head with ⟨first, others, same, -⟩
      cases same
    simp [readSide, empty, none, eq_comm]
  · simp [readSide, empty, readGroups_eq_some_iff]

/-! ## Version 6 -/

theorem Ipv6.ofGroups_eq_some_iff {groups : List (Fin 65536)} {ip : Ipv6} :
    Ipv6.ofGroups groups = some ip ↔ ip.groups = groups := by
  constructor
  · intro eight
    unfold Ipv6.ofGroups at eight
    split_ifs at eight
    cases eight
    rfl
  · rintro rfl
    exact ip.ofGroups_groups

theorem readIpv6_of_ungapped {text : List Char} {ip : Ipv6} (ungapped : splitAtGap text = none) :
    Ipv6.read text = some ip ↔ SpellsTail text ip.groups := by
  rw [Ipv6.read, ungapped, ← readGroups_eq_some_iff]
  simp only [Option.bind_eq_some_iff, Ipv6.ofGroups_eq_some_iff]
  constructor
  · rintro ⟨groups, read, rfl⟩
    exact read
  · exact fun read => ⟨_, read, rfl⟩

theorem readIpv6_of_gapped {text front back : List Char} {ip : Ipv6}
    (cut : splitAtGap text = some (front, back)) :
    Ipv6.read text = some ip ↔ ∃ before after zeros,
      readFront front = some before ∧ readSide back = some after ∧ 0 < zeros ∧
        ip.groups = before ++ List.replicate zeros 0 ++ after := by
  have both : Ipv6.read text = (readFront front).bind fun before =>
      (readSide back).bind fun after =>
        if before.length + after.length < 8 then
          Ipv6.ofGroups
            (before ++ List.replicate (8 - (before.length + after.length)) 0 ++ after)
        else none := by
    simp only [Ipv6.read, cut, readFront]
    split <;> rfl
  rw [both]
  constructor
  · intro read
    rcases Option.bind_eq_some_iff.mp read with ⟨before, readBefore, read⟩
    rcases Option.bind_eq_some_iff.mp read with ⟨after, readAfter, read⟩
    split_ifs at read with room
    exact ⟨before, after, _, readBefore, readAfter, Nat.sub_pos_of_lt room,
      Ipv6.ofGroups_eq_some_iff.mp read⟩
  · rintro ⟨before, after, zeros, readBefore, readAfter, any, groups⟩
    -- The length of an address gives away how many zeros were left out.
    have eight := ip.length_groups
    rw [groups, List.length_append, List.length_append, List.length_replicate] at eight
    have missing : 8 - (before.length + after.length) = zeros := by omega
    have room : before.length + after.length < 8 := by omega
    rw [readBefore, Option.bind_some, readAfter, Option.bind_some, if_pos room, missing, ← groups,
      ip.ofGroups_groups]

/-- The reader takes a text for an address exactly if the text is a spelling of the address. -/
theorem Ipv6.read_eq_some_iff {text : List Char} {ip : Ipv6} :
    Ipv6.read text = some ip ↔ Spells text ip := by
  constructor
  · intro read
    cases cut : splitAtGap text with
    | none => exact .full ((readIpv6_of_ungapped cut).mp read)
    | some sides =>
        rcases (readIpv6_of_gapped cut).mp read with ⟨before, after, zeros, front, back, any, groups⟩
        rw [eq_of_splitAtGap cut]
        exact .gap (readFront_eq_some_iff.mp front) (readSide_eq_some_iff.mp back) any groups
  · intro spelled
    cases spelled with
    | full tail =>
        have ungapped := tail.splitAtGap []
        rw [List.append_nil] at ungapped
        exact (readIpv6_of_ungapped ungapped).mpr tail
    | @gap front back before after zeros _ isFront isBack any groups =>
        have cut : splitAtGap (front ++ ':' :: ':' :: back) = some (front, back) := by
          rcases isFront with ⟨-, rfl⟩ | spelled
          · rfl
          · rw [spelled.spellsTail.splitAtGap]
            simp [Net.splitAtGap]
        exact (readIpv6_of_gapped cut).mpr ⟨before, after, zeros, readFront_eq_some_iff.mpr isFront,
          readSide_eq_some_iff.mpr isBack, any, groups⟩

end MeshControl.Net
