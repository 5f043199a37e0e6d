import Mathlib.Data.List.Induction
import MeshControl.Text.Numeral

/-!
Numbers survive being written and read.

Every reader of a number takes more texts than the writer makes, since it allows leading zeros, a
plus sign or upper case. What is shown here is that the one text that is written is among those
that are read, and that it is read as the number it was written for. The digits are kept apart
from the marks that separate numbers, because a text of several numbers is cut at those marks.

The other texts that are read are told as well: zeros in front of a written number, and digits of
either case. Digits are divided from the back, as the writer makes them, and zeros are taken off at
the front. What is read piece by piece survives as a list of pieces.
-/

namespace MeshControl.Text

/-! ## Decimal digits -/

theorem isDigit_of_mem_decimal {value : Nat} {digit : Char} (written : digit ∈ decimal value) :
    digit.isDigit = true :=
  Nat.isDigit_of_mem_toDigits (by decide) (by decide) written

/-- A mark that is no digit does not occur in a number. -/
theorem not_mem_decimal {value : Nat} {mark : Char} (other : mark.isDigit = false) :
    mark ∉ decimal value := by
  intro written
  rw [isDigit_of_mem_decimal written] at other
  cases other

/-- No number but zero begins with a zero. -/
theorem eq_zero_of_head_decimal {value : Nat} (zero : (decimal value).head? = some '0') :
    value = 0 := by
  induction value using Nat.strongRecOn with
  | _ value smaller =>
    rw [decimal] at zero
    by_cases short : value < 10
    · rw [Nat.toDigits_of_lt_base short] at zero
      have onlyZero : ∀ digit < 10, digit.digitChar = '0' → digit = 0 := by decide
      exact onlyZero value short (Option.some.inj zero)
    · rw [Nat.toDigits_of_base_le (by decide) (by omega),
        List.head?_append,
        Option.or_of_isSome (List.isSome_head?.mpr Nat.toDigits_ne_nil)] at zero
      have quotient := smaller (value / 10) (by omega) zero
      omega

theorem readDigits_decimal (value : Nat) : readDigits (decimal value) = some value := by
  have filled : (decimal value).isEmpty = false :=
    List.isEmpty_eq_false_iff.mpr Nat.toDigits_ne_nil
  have digits : (decimal value).all Char.isDigit = true :=
    List.all_eq_true.mpr fun _ written => isDigit_of_mem_decimal written
  rw [readDigits, filled, digits, if_neg (by decide), decimal, Nat.ofDigitChars_ten_toDigits]

theorem readBounded_decimal {limit : Nat} (value : Fin limit) :
    readBounded limit (decimal value.val) = some value := by
  simp [readBounded, readDigits_decimal]

/-- A number without a sign is read alike by the reader that allows one. -/
theorem readUnsigned_of_readBounded {limit : Nat} {text : List Char} {value : Fin limit}
    (read : readBounded limit text = some value) : readUnsigned limit text = some value := by
  unfold readUnsigned
  split
  case h_1 digits => simp [readBounded, readDigits] at read
  case h_2 => exact read

/-! ## Leading zeros -/

/-- A decimal digit is the one that is written for its value. -/
theorem digitChar_of_isDigit {digit : Char} (decimal : digit.isDigit = true) :
    digit.toNat - '0'.toNat < 10 ∧ (digit.toNat - '0'.toNat).digitChar = digit := by
  have range : 48 ≤ digit.toNat ∧ digit.toNat ≤ 57 := Char.isDigit_iff_toNat.mp decimal
  have zero : '0'.toNat = 48 := rfl
  have single : digit.toNat - 48 < 10 := by omega
  refine ⟨single, Char.toNat_inj.mp ?_⟩
  rw [zero, Nat.toNat_digitChar_of_lt_ten single]
  omega

/-- Digits without a leading zero are what is written for their value. -/
theorem decimal_ofDigitChars {digits : List Char} (filled : digits ≠ [])
    (all : ∀ digit ∈ digits, digit.isDigit = true)
    (bare : digits.head? = some '0' → digits = ['0']) :
    decimal (Nat.ofDigitChars 10 digits 0) = digits := by
  induction digits using List.reverseRecOn with
  | nil => exact absurd rfl filled
  | append_singleton front last ih =>
    have single := digitChar_of_isDigit (all last (by simp))
    rw [decimal, Nat.ofDigitChars_append, Nat.ofDigitChars_cons, Nat.ofDigitChars_nil]
    by_cases alone : front = []
    · rw [alone, Nat.ofDigitChars_nil, Nat.mul_zero, Nat.zero_add,
        Nat.toDigits_of_lt_base single.1, single.2, List.nil_append]
    · have head : front.head? ≠ some '0' := by
        intro zero
        have whole := bare (by rw [List.head?_append, zero, Option.some_or])
        have lengths := congrArg List.length whole
        simp [alone] at lengths
      have written := ih alone (fun digit member => all digit (List.mem_append_left _ member))
        (fun zero => absurd zero head)
      have positive : 0 < Nat.ofDigitChars 10 front 0 := by
        apply Nat.pos_of_ne_zero
        intro zero
        rw [zero] at written
        exact head (written ▸ rfl)
      rw [← Nat.toDigits_append_toDigits (by decide) positive single.1, ← decimal, written,
        Nat.toDigits_of_lt_base single.1, single.2]

/-- Digits are leading zeros and what is written for their value. -/
theorem exists_leadingZeros {digits : List Char} (filled : digits ≠ [])
    (all : ∀ digit ∈ digits, digit.isDigit = true) :
    ∃ zeros, digits = List.replicate zeros '0' ++ decimal (Nat.ofDigitChars 10 digits 0) := by
  induction digits with
  | nil => exact absurd rfl filled
  | cons digit rest ih =>
    by_cases leading : digit = '0' ∧ rest ≠ []
    · rcases leading with ⟨rfl, more⟩
      rcases ih more (fun digit member => all digit (List.mem_cons_of_mem _ member)) with
        ⟨zeros, written⟩
      refine ⟨zeros + 1, ?_⟩
      rw [Nat.ofDigitChars_cons, List.replicate_succ, List.cons_append]
      exact congrArg _ written
    · refine ⟨0, (decimal_ofDigitChars filled all ?_).symm⟩
      intro zero
      have first : digit = '0' := Option.some.inj zero
      have last : rest = [] := not_not.mp fun more => leading ⟨first, more⟩
      rw [first, last]

theorem readDigits_zeros (zeros value : Nat) :
    readDigits (List.replicate zeros '0' ++ decimal value) = some value := by
  have filled : (List.replicate zeros '0' ++ decimal value).isEmpty = false := by
    rw [List.isEmpty_eq_false_iff]
    exact List.append_ne_nil_of_right_ne_nil _ Nat.toDigits_ne_nil
  have digits : (List.replicate zeros '0' ++ decimal value).all Char.isDigit = true := by
    rw [List.all_append, List.all_replicate, Bool.and_eq_true]
    refine ⟨by simp, List.all_eq_true.mpr fun _ written => isDigit_of_mem_decimal written⟩
  rw [readDigits, filled, digits, if_neg (by decide), Nat.ofDigitChars_append,
    Nat.ofDigitChars_replicate_zero, Nat.mul_zero, decimal, Nat.ofDigitChars_ten_toDigits]

/-- A number below a limit is read from its digits after any number of zeros, and from no other
text. -/
theorem isSome_readBounded_iff {limit : Nat} {text : List Char} :
    (readBounded limit text).isSome = true ↔
      ∃ zeros value, value < limit ∧ text = List.replicate zeros '0' ++ decimal value := by
  constructor
  · intro read
    have parts : (text ≠ [] ∧ ∀ digit ∈ text, digit.isDigit = true) ∧
        Nat.ofDigitChars 10 text 0 < limit := by
      unfold readBounded readDigits at read
      grind
    rcases exists_leadingZeros parts.1.1 parts.1.2 with ⟨zeros, written⟩
    exact ⟨zeros, _, parts.2, written⟩
  · rintro ⟨zeros, value, below, rfl⟩
    simp [readBounded, readDigits_zeros, below]

theorem readBounded_eq_some_iff {limit : Nat} {text : List Char} {value : Fin limit} :
    readBounded limit text = some value ↔
      ∃ zeros, text = List.replicate zeros '0' ++ decimal value.val := by
  constructor
  · intro read
    rcases isSome_readBounded_iff.mp (Option.isSome_of_eq_some read) with
      ⟨zeros, written, below, rfl⟩
    rw [readBounded, readDigits_zeros] at read
    simp only [below, dite_true, Option.some.injEq] at read
    exact ⟨zeros, read ▸ rfl⟩
  · rintro ⟨zeros, rfl⟩
    simp [readBounded, readDigits_zeros]

/-! ## Signs -/

/-- A number as it may be written: its digits, any zeros in front of them, and at most one plus sign
in front of those. -/
def IsUnsigned (text : List Char) (value : Nat) : Prop :=
  ∃ zeros, text = List.replicate zeros '0' ++ decimal value ∨
    text = '+' :: (List.replicate zeros '0' ++ decimal value)

theorem readUnsigned_eq_some_iff {limit : Nat} {text : List Char} {value : Fin limit} :
    readUnsigned limit text = some value ↔ IsUnsigned text value.val := by
  constructor
  · intro read
    unfold readUnsigned at read
    split at read
    case h_1 digits =>
      rcases readBounded_eq_some_iff.mp read with ⟨zeros, rfl⟩
      exact ⟨zeros, .inr rfl⟩
    case h_2 =>
      rcases readBounded_eq_some_iff.mp read with ⟨zeros, rfl⟩
      exact ⟨zeros, .inl rfl⟩
  · rintro ⟨zeros, rfl | rfl⟩
    · exact readUnsigned_of_readBounded (readBounded_eq_some_iff.mpr ⟨zeros, rfl⟩)
    · exact readBounded_eq_some_iff.mpr ⟨zeros, rfl⟩

/-- There is no mark in a number but its sign. -/
theorem not_mem_of_isUnsigned {text : List Char} {value : Nat} (written : IsUnsigned text value)
    {mark : Char} (other : mark.isDigit = false) (unsigned : mark ≠ '+') : mark ∉ text := by
  have digits (zeros : Nat) : mark ∉ List.replicate zeros '0' ++ decimal value := by
    rw [List.mem_append, not_or]
    refine ⟨?_, not_mem_decimal other⟩
    intro zero
    rw [List.eq_of_mem_replicate zero] at other
    cases other
  rcases written with ⟨zeros, rfl | rfl⟩
  · exact digits zeros
  · exact List.not_mem_cons_of_ne_of_not_mem unsigned (digits zeros)

/-! ## Hexadecimal digits -/

theorem hexValue_digitChar {digit : Nat} (single : digit < 16) :
    hexValue digit.digitChar = some digit := by
  have all : ∀ digit < 16, hexValue digit.digitChar = some digit := by decide
  exact all digit single

/-- A decimal digit is a hexadecimal one. -/
theorem hexValue_isSome_of_isDigit {digit : Char} (decimal : digit.isDigit = true) :
    (hexValue digit).isSome = true := by
  rw [hexValue, if_pos decimal, Option.isSome_some]

/-- A number is written in digits that have a value. -/
theorem hexValue_isSome_of_mem_hexadecimal {value : Nat} {digit : Char}
    (written : digit ∈ hexadecimal value) : (hexValue digit).isSome = true := by
  induction value using Nat.strongRecOn with
  | _ value smaller =>
    rw [hexadecimal] at written
    by_cases short : value < 16
    · rw [Nat.toDigits_of_lt_base short, List.mem_singleton] at written
      rw [written, hexValue_digitChar short, Option.isSome_some]
    · rw [Nat.toDigits_of_base_le (by decide) (by omega), List.mem_append,
        List.mem_singleton] at written
      rcases written with front | last
      · exact smaller (value / 16) (by omega) front
      · rw [last, hexValue_digitChar (by omega), Option.isSome_some]

/-- A mark that has no value does not occur in a number. -/
theorem not_mem_hexadecimal {value : Nat} {mark : Char} (other : (hexValue mark).isSome = false) :
    mark ∉ hexadecimal value := by
  intro written
  rw [hexValue_isSome_of_mem_hexadecimal written] at other
  cases other

/-- The reader goes from the front and the writer from the back; the last digit is what the value
leaves when it is divided. -/
theorem readHexadecimal_hexadecimal (value : Nat) :
    readHexadecimal (hexadecimal value) = some value := by
  have filled : (hexadecimal value).isEmpty = false :=
    List.isEmpty_eq_false_iff.mpr Nat.toDigits_ne_nil
  rw [readHexadecimal, filled, if_neg (by decide)]
  clear filled
  induction value using Nat.strongRecOn with
  | _ value smaller =>
    rw [hexadecimal]
    by_cases short : value < 16
    · simp [Nat.toDigits_of_lt_base short, hexValue_digitChar short]
    · have front := smaller (value / 16) (by omega)
      rw [hexadecimal] at front
      have last := hexValue_digitChar (Nat.mod_lt value (by decide : 0 < 16))
      have whole := Nat.div_add_mod value 16
      rw [Nat.toDigits_of_base_le (by decide) (by omega), List.foldlM_append, front]
      simp [last, whole]

theorem isSome_readHexadecimal_iff {text : List Char} :
    (readHexadecimal text).isSome = true ↔
      text ≠ [] ∧ ∀ digit ∈ text, (hexValue digit).isSome = true := by
  have each (sofar : Nat) :
      (text.foldlM (fun sofar digit => (hexValue digit).map (16 * sofar + ·)) sofar).isSome = true ↔
        ∀ digit ∈ text, (hexValue digit).isSome = true := by
    induction text generalizing sofar with
    | nil => simp
    | cons digit rest tail => cases value : hexValue digit <;> simp [value, tail]
  cases text with
  | nil => simp [readHexadecimal]
  | cons digit rest =>
    rw [readHexadecimal, List.isEmpty_cons, if_neg (by decide), each 0]
    simp

theorem toNat_lt_of_hexValue {digit : Char} (known : (hexValue digit).isSome = true) :
    digit.toNat < 128 := by
  have below {last : Char} (order : digit ≤ last) (early : last.toNat < 128) :
      digit.toNat < 128 :=
    Nat.lt_of_le_of_lt (UInt32.le_iff_toNat_le.mp (Char.le_def.mp order)) early
  unfold hexValue at known
  split_ifs at known with decimal lower upper
  · exact Nat.lt_of_le_of_lt (Char.isDigit_iff_toNat.mp decimal).2 (by decide)
  · exact below lower.2 (by decide)
  · exact below upper.2 (by decide)
  · cases known

/-- A hexadecimal digit is the one that is written for its value, but for its case. -/
theorem digitChar_of_hexValue {digit : Char} {value : Nat} (known : hexValue digit = some value) :
    value < 16 ∧ digit.toLower = value.digitChar := by
  have all : ∀ code < 128, ∀ value ∈ hexValue (Char.ofNat code),
      value < 16 ∧ (Char.ofNat code).toLower = value.digitChar := by
    decide +kernel
  have found := all digit.toNat (toNat_lt_of_hexValue (Option.isSome_of_eq_some known)) value
  rw [Char.ofNat_toNat] at found
  exact found known

theorem hexValue_toLower (digit : Char) : hexValue digit.toLower = hexValue digit := by
  by_cases small : digit.toNat < 128
  · have all : ∀ code < 128,
        hexValue (Char.ofNat code).toLower = hexValue (Char.ofNat code) := by
      decide +kernel
    have found := all digit.toNat small
    rwa [Char.ofNat_toNat] at found
  · have other : ¬ (digit.val ≥ 'A'.val ∧ digit.val ≤ 'Z'.val) := by
      rintro ⟨-, upper⟩
      have bound : digit.toNat ≤ 'Z'.toNat := UInt32.le_iff_toNat_le.mp upper
      exact small (Nat.lt_of_le_of_lt bound (by decide))
    have same : digit.toLower = digit := dif_neg other
    rw [same]

theorem readHexadecimal_toLower (text : List Char) :
    readHexadecimal (text.map Char.toLower) = readHexadecimal text := by
  simp only [readHexadecimal, List.isEmpty_map, List.foldlM_map, hexValue_toLower]

theorem readHexadecimal_append_singleton {front : List Char} (filled : front ≠ []) (last : Char) :
    readHexadecimal (front ++ [last]) =
      (readHexadecimal front).bind fun sofar => (hexValue last).map (16 * sofar + ·) := by
  simp [readHexadecimal, filled]

theorem readHexadecimal_singleton (digit : Char) : readHexadecimal [digit] = hexValue digit := by
  simp [readHexadecimal]

/-- A zero in front of a number adds nothing to it. -/
theorem readHexadecimal_zero_cons {text : List Char} (filled : text ≠ []) :
    readHexadecimal ('0' :: text) = readHexadecimal text := by
  have zero : hexValue '0' = some 0 := by decide
  simp [readHexadecimal, filled, zero]

theorem readHexadecimal_zeros (zeros value : Nat) :
    readHexadecimal (List.replicate zeros '0' ++ hexadecimal value) = some value := by
  induction zeros with
  | zero => exact readHexadecimal_hexadecimal value
  | succ zeros ih =>
    have filled : List.replicate zeros '0' ++ hexadecimal value ≠ [] :=
      List.append_ne_nil_of_right_ne_nil _ Nat.toDigits_ne_nil
    rw [List.replicate_succ, List.cons_append, readHexadecimal_zero_cons filled, ih]

/-- Digits of either case are leading zeros and what is written for their value. -/
theorem exists_zeros_of_readHexadecimal {text : List Char} {value : Nat}
    (read : readHexadecimal text = some value) :
    ∃ zeros, text.map Char.toLower = List.replicate zeros '0' ++ hexadecimal value := by
  induction text using List.reverseRecOn generalizing value with
  | nil => cases read
  | append_singleton front last ih =>
    by_cases alone : front = []
    · rw [alone, List.nil_append, readHexadecimal_singleton] at read
      rcases digitChar_of_hexValue read with ⟨single, written⟩
      refine ⟨0, ?_⟩
      simp [alone, written, hexadecimal, Nat.toDigits_of_lt_base single]
    · rw [readHexadecimal_append_singleton alone] at read
      rcases Option.bind_eq_some_iff.mp read with ⟨sofar, readFront, read⟩
      rcases Option.map_eq_some_iff.mp read with ⟨digit, known, rfl⟩
      rcases digitChar_of_hexValue known with ⟨single, written⟩
      rcases ih readFront with ⟨zeros, before⟩
      rw [List.map_append, before, List.map_singleton, written]
      -- A leading zero that stands for itself is one more zero in front of the last digit.
      by_cases nothing : sofar = 0
      · refine ⟨zeros + 1, ?_⟩
        rw [nothing, Nat.mul_zero, Nat.zero_add, hexadecimal, hexadecimal,
          Nat.toDigits_of_lt_base single, Nat.toDigits_of_lt_base (by decide),
          List.replicate_succ']
        rfl
      · refine ⟨zeros, ?_⟩
        rw [List.append_assoc, hexadecimal, hexadecimal, ← Nat.toDigits_of_lt_base single,
          Nat.toDigits_append_toDigits (by decide) (Nat.pos_of_ne_zero nothing) single]

theorem readHexadecimal_eq_some_iff {text : List Char} {value : Nat} :
    readHexadecimal text = some value ↔
      ∃ zeros, text.map Char.toLower = List.replicate zeros '0' ++ hexadecimal value := by
  refine ⟨exists_zeros_of_readHexadecimal, ?_⟩
  rintro ⟨zeros, written⟩
  rw [← readHexadecimal_toLower, written, readHexadecimal_zeros]

/-! ## Lists -/

/-- A reader that takes back what is written for one value does so for a list of values. -/
theorem mapM_map_of_reads {Value Written : Type} {write : Value → Written}
    {read : Written → Option Value} (reads : ∀ value, read (write value) = some value)
    (values : List Value) : (values.map write).mapM read = some values := by
  induction values with
  | nil => rfl
  | cons value rest tail => simp [reads value, tail]

/-- What a reader takes for a list of values is what is written for it, if that is so for one value. -/
theorem eq_map_of_mapM {Value Written : Type} {write : Value → Written}
    {read : Written → Option Value}
    (written : ∀ {part : Written} {value : Value}, read part = some value → part = write value)
    {parts : List Written} {values : List Value} (all : parts.mapM read = some values) :
    parts = values.map write := by
  induction parts generalizing values with
  | nil =>
    cases all
    rfl
  | cons part rest tail =>
    rw [List.mapM_cons] at all
    rcases Option.bind_eq_some_iff.mp all with ⟨value, first, all⟩
    rcases Option.bind_eq_some_iff.mp all with ⟨others, later, same⟩
    cases same
    rw [List.map_cons, ← written first, ← tail later]

end MeshControl.Text
