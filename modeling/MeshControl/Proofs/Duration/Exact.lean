import Mathlib.Algebra.Group.Nat.Defs
import MeshControl.Duration
import MeshControl.Proofs.Text.Cutting
import MeshControl.Proofs.Text.Numerals

/-!
The text of a duration tells its nanoseconds.

The unit says how many decimal places there can be. The zeros at the end that were left out are put back
up to that number, and then the digits, with the point passed over, count the nanoseconds. So the
duration can be read off its text, and no two durations have the same.

A duration may be handed over in whole seconds and nanoseconds short of one more. Such a pair is known
from the nanoseconds altogether, and of two pairs the one with fewer nanoseconds altogether is the first
in the order of pairs.

Main statements: `read?_text`, `text_injective`.
-/

namespace MeshControl.Duration

/-! ## A reader -/

/-- How many decimal places there are in the unit of a name. -/
def placesOf : List Char → Option Nat
  | ['s'] => some 9
  | ['m', 's'] => some 6
  | ['µ', 's'] => some 3
  | ['n', 's'] => some 0
  | _ => none

/-- The characters of a number with decimal places. -/
def isNumeral (c : Char) : Bool :=
  c.isDigit || c = '.'

/-- What the digits of a number count in its last decimal place. -/
def readNumeral (places : Nat) (numeral : List Char) : Nat :=
  Nat.ofDigitChars 10 (numeral.takeWhile Char.isDigit ++
    ((numeral.dropWhile Char.isDigit).drop 1).rightpad places '0') 0

def read? (text : List Char) : Option Duration :=
  (placesOf (text.dropWhile isNumeral)).map fun places =>
    ⟨readNumeral places (text.takeWhile isNumeral)⟩

/-! ## Decimal places -/

theorem ofDigitChars_padded (places value : Nat) :
    Nat.ofDigitChars 10 (padded places value) 0 = value := by
  rw [padded, Nat.ofDigitChars_append, Nat.ofDigitChars_replicate_zero, Nat.mul_zero, Text.decimal,
    Nat.ofDigitChars_ten_toDigits]

theorem length_padded {places value : Nat} (filled : 0 < places) (small : value < 10 ^ places) :
    (padded places value).length = places := by
  have fits : (Text.decimal value).length ≤ places :=
    (Nat.length_toDigits_le_iff (by decide) filled).mpr small
  rw [padded, List.length_append, List.length_replicate, Nat.sub_add_cancel fits]

/-- Zeros that were taken off at the end are put back if the length is known. -/
theorem rightpad_dropWhile (digits : List Char) :
    ((digits.reverse.dropWhile (· = '0')).reverse).rightpad digits.length '0' = digits := by
  let kept := (digits.reverse.dropWhile (· = '0')).reverse
  let dropped := (digits.reverse.takeWhile (· = '0')).reverse
  have whole : kept ++ dropped = digits := by
    rw [← List.reverse_append, List.takeWhile_append_dropWhile, List.reverse_reverse]
  have zeros : dropped = List.replicate dropped.length '0' := by
    rw [List.eq_replicate_iff]
    refine ⟨rfl, fun digit member => ?_⟩
    simpa using List.mem_takeWhile_imp (List.mem_reverse.mp member)
  have lengths : digits.length - kept.length = dropped.length := by
    rw [← whole, List.length_append, Nat.add_sub_cancel_left]
  change kept.rightpad digits.length '0' = digits
  rw [List.rightpad, lengths, ← zeros, whole]

/-- The decimal places count what the fraction was written for. -/
theorem rightpad_fraction {places value : Nat} (small : value < 10 ^ places) :
    (((fraction places value).drop 1).rightpad places '0').length = places ∧
      Nat.ofDigitChars 10 (((fraction places value).drop 1).rightpad places '0') 0 = value := by
  by_cases zero : value = 0
  · rw [fraction, if_pos zero, zero]
    simp [List.rightpad]
  · have filled : 0 < places := by
      apply Nat.pos_of_ne_zero
      rintro rfl
      omega
    have length := length_padded filled small
    have back := rightpad_dropWhile (padded places value)
    rw [length] at back
    rw [fraction, if_neg zero, List.drop_one, List.tail_cons, back]
    exact ⟨length, ofDigitChars_padded places value⟩

theorem mem_fraction {places value : Nat} {c : Char} (written : c ∈ fraction places value) :
    isNumeral c = true := by
  unfold fraction at written
  split_ifs at written with zero
  · cases written
  · rcases List.mem_cons.mp written with rfl | digit
    · rfl
    · have padding := (List.dropWhile_suffix _).subset (List.mem_reverse.mp digit)
      rcases List.mem_append.mp (List.mem_reverse.mp padding) with zero | digit
      · rw [List.eq_of_mem_replicate zero]
        rfl
      · rw [isNumeral, Text.isDigit_of_mem_decimal digit, Bool.true_or]

theorem head?_fraction {places value : Nat} :
    ∀ c ∈ (fraction places value).head?, c.isDigit = false := by
  unfold fraction
  split_ifs with zero
  · rintro c ⟨⟩
  · rintro c ⟨⟩
    rfl

theorem readNumeral_written {places rest : Nat} (whole : Nat) (small : rest < 10 ^ places) :
    readNumeral places (Text.decimal whole ++ fraction places rest) =
      10 ^ places * whole + rest := by
  have digits : ∀ c ∈ Text.decimal whole, c.isDigit = true :=
    fun _ written => Text.isDigit_of_mem_decimal written
  rcases rightpad_fraction small with ⟨length, count⟩
  rw [readNumeral, Text.takeWhile_append_of_ends digits head?_fraction,
    Text.dropWhile_append_of_ends digits head?_fraction, Nat.ofDigitChars_append, Text.decimal,
    Nat.ofDigitChars_ten_toDigits, Nat.ofDigitChars_eq_ofDigitChars_zero, length, count]

/-! ## Whole durations -/

theorem placesOf_measure (duration : Duration) :
    placesOf duration.measure.name.toList = some duration.measure.places ∧
      ∀ c ∈ duration.measure.name.toList.head?, isNumeral c = false := by
  unfold measure
  split_ifs
  all_goals
    refine ⟨rfl, ?_⟩
    rintro c ⟨⟩
    rfl

theorem blank_not_mem_measure (duration : Duration) : ' ' ∉ duration.measure.name.toList := by
  unfold measure
  split_ifs <;> decide

theorem isNumeral_of_mem {whole places rest : Nat} {c : Char}
    (written : c ∈ Text.decimal whole ++ fraction places rest) : isNumeral c = true := by
  rcases List.mem_append.mp written with digit | decimal
  · rw [isNumeral, Text.isDigit_of_mem_decimal digit, Bool.true_or]
  · exact mem_fraction decimal

theorem toList_text (duration : Duration) :
    duration.text.toList = Text.decimal (duration.nanoseconds / 10 ^ duration.measure.places) ++
      fraction duration.measure.places (duration.nanoseconds % 10 ^ duration.measure.places) ++
      duration.measure.name.toList := by
  rw [text, String.toList_append, String.toList_ofList]
  rfl

theorem read?_text (duration : Duration) : read? duration.text.toList = some duration := by
  have small : duration.nanoseconds % 10 ^ duration.measure.places <
      10 ^ duration.measure.places := Nat.mod_lt _ (Nat.pow_pos (by decide))
  rcases placesOf_measure duration with ⟨known, named⟩
  rw [read?, toList_text, Text.takeWhile_append_of_ends (fun _ => isNumeral_of_mem) named,
    Text.dropWhile_append_of_ends (fun _ => isNumeral_of_mem) named, known, Option.map_some,
    readNumeral_written _ small, Nat.div_add_mod]

theorem text_injective : Function.Injective text := by
  intro duration other same
  have read := read?_text duration
  rw [same, read?_text] at read
  exact (Option.some.inj read).symm

/-- On both sides of a unit's border. -/
example : [999, 1000, 999999999, 1000000001].map (fun count => text ⟨count⟩) =
    ["999ns", "1µs", "999.999999ms", "1.000000001s"] := by decide

theorem blank_not_mem_text (duration : Duration) : ' ' ∉ duration.text.toList := by
  rw [toList_text, List.mem_append, not_or]
  refine ⟨fun written => ?_, blank_not_mem_measure duration⟩
  have numeral : isNumeral ' ' = true := isNumeral_of_mem written
  cases numeral

/-! ## Seconds and nanoseconds -/

/-- A duration as it is handed over: whole seconds in 64 bits, and nanoseconds short of one more. -/
structure Parts where
  seconds : Fin (2 ^ 64)
  nanoseconds : Fin (10 ^ 9)
deriving DecidableEq

namespace Parts

def duration (parts : Parts) : Duration :=
  .ofSeconds parts.seconds.val parts.nanoseconds.val

theorem duration_injective : Function.Injective duration := by
  rintro ⟨seconds, nanoseconds⟩ ⟨seconds', nanoseconds'⟩ same
  have total : seconds.val * 1000000000 + nanoseconds.val =
      seconds'.val * 1000000000 + nanoseconds'.val := congrArg Duration.nanoseconds same
  have short := nanoseconds.isLt
  have short' := nanoseconds'.isLt
  rw [mk.injEq, Fin.ext_iff, Fin.ext_iff]
  omega

/-- Whole seconds count first, since the nanoseconds are short of one. -/
theorem nanoseconds_duration_lt_iff {parts other : Parts} :
    parts.duration.nanoseconds < other.duration.nanoseconds ↔
      parts.seconds < other.seconds ∨
        parts.seconds = other.seconds ∧ parts.nanoseconds < other.nanoseconds := by
  have short := parts.nanoseconds.isLt
  have short' := other.nanoseconds.isLt
  simp only [duration, ofSeconds, Fin.lt_def, Fin.ext_iff]
  omega

end Parts

end MeshControl.Duration
