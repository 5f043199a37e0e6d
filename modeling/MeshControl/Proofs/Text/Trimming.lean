import Mathlib.Data.List.TakeWhile
import MeshControl.Proofs.Text.Numerals
import MeshControl.Text.Blank

/-!
What is left of a text without the blanks around it.

Trimming takes blanks off at the front as long as there are any, and then at the end. What it leaves
is told by how the text is put together: blanks, a name that neither begins nor ends with one, and
blanks again. A text is blank throughout exactly if nothing is left of it. A number is such a name.
-/

namespace MeshControl.Text

def AllBlank (text : List Char) : Prop :=
  ∀ character ∈ text, isBlank character = true

/-- A name with blanks before and behind it, if with any. -/
def IsPadded (name text : List Char) : Prop :=
  ∃ front back, AllBlank front ∧ AllBlank back ∧ text = front ++ name ++ back

/-- A name that neither begins nor ends with a blank. -/
def IsBare (name : List Char) : Prop :=
  (name.head?).all (!isBlank ·) = true ∧ (name.reverse.head?).all (!isBlank ·) = true

theorem isBare_of_forall {name : List Char}
    (solid : ∀ character ∈ name, isBlank character = false) : IsBare name := by
  have first (text : List Char) (all : ∀ character ∈ text, isBlank character = false) :
      (text.head?).all (!isBlank ·) = true := by
    cases text with
    | nil => rfl
    | cons character rest => simp [all character List.mem_cons_self]
  exact ⟨first name solid, first name.reverse fun character member =>
    solid character (List.mem_reverse.mp member)⟩

theorem allBlank_takeWhile (text : List Char) : AllBlank (text.takeWhile isBlank) :=
  List.all_eq_true.mp List.all_takeWhile

theorem AllBlank.reverse {text : List Char} (blank : AllBlank text) : AllBlank text.reverse :=
  fun character member => blank character (List.mem_reverse.mp member)

theorem trimEnd_append (text : List Char) :
    text = trimEnd text ++ (text.reverse.takeWhile isBlank).reverse := by
  rw [trimEnd, ← List.reverse_append, List.takeWhile_append_dropWhile, List.reverse_reverse]

theorem isPadded_trim (text : List Char) : IsPadded (trim text) text := by
  let rest := text.dropWhile isBlank
  have front : text = text.takeWhile isBlank ++ rest := List.takeWhile_append_dropWhile.symm
  refine ⟨_, _, allBlank_takeWhile text, (allBlank_takeWhile rest.reverse).reverse, ?_⟩
  rw [List.append_assoc]
  exact front.trans (congrArg _ (trimEnd_append rest))

theorem all_head?_dropWhile (text : List Char) :
    ((text.dropWhile isBlank).head?).all (!isBlank ·) = true := by
  have first := List.head?_dropWhile_not isBlank text
  cases begins : (text.dropWhile isBlank).head? with
  | none => rfl
  | some character =>
      rw [begins] at first
      simp [first]

/-- What is left begins and ends with a letter, if it is not empty. -/
theorem isBare_trim (text : List Char) : IsBare (trim text) := by
  let rest := text.dropWhile isBlank
  have ends : (trimEnd rest).reverse = rest.reverse.dropWhile isBlank := List.reverse_reverse _
  have begins := all_head?_dropWhile text
  have whole := trimEnd_append rest
  constructor
  · change ((trimEnd rest).head?).all (!isBlank ·) = true
    cases left : trimEnd rest with
    | nil => rfl
    | cons first others =>
        rw [left] at whole
        rw [show text.dropWhile isBlank = rest from rfl, whole] at begins
        exact begins
  · rw [trim, ends]
    exact all_head?_dropWhile rest.reverse

theorem trim_eq_nil_iff {text : List Char} : trim text = [] ↔ AllBlank text := by
  constructor
  · intro empty
    rcases isPadded_trim text with ⟨front, back, blankFront, blankBack, whole⟩
    rw [empty, List.append_nil] at whole
    intro character member
    rw [whole] at member
    exact (List.mem_append.mp member).elim (blankFront character) (blankBack character)
  · intro blank
    have dropped : text.dropWhile isBlank = [] := List.dropWhile_eq_nil_iff.mpr blank
    rw [trim, dropped]
    rfl

/-- Blanks are taken off in front of a name up to its first letter. -/
theorem dropWhile_padded {front name : List Char} (blank : AllBlank front) (filled : name ≠ [])
    (bare : (name.head?).all (!isBlank ·) = true) (back : List Char) :
    (front ++ (name ++ back)).dropWhile isBlank = name ++ back := by
  rcases List.exists_cons_of_ne_nil filled with ⟨first, others, rfl⟩
  have other : isBlank first = false := by simpa using bare
  rw [List.dropWhile_append_of_pos blank, List.cons_append, List.dropWhile_cons_of_neg]
  simp [other]

/-- Only blanks around a name are taken off. -/
theorem trim_eq_iff {name text : List Char} (filled : name ≠ []) (bare : IsBare name) :
    trim text = name ↔ IsPadded name text := by
  constructor
  · rintro rfl
    exact isPadded_trim text
  · rintro ⟨front, back, blankFront, blankBack, rfl⟩
    have backwards := dropWhile_padded blankBack.reverse (mt List.reverse_eq_nil_iff.mp filled)
      bare.2 []
    rw [List.append_nil, ← List.reverse_append] at backwards
    rw [trim, List.append_assoc, dropWhile_padded blankFront filled bare.1, trimEnd, backwards,
      List.reverse_reverse]

/-! ## Numbers -/

theorem isBlank_of_isDigit {digit : Char} (decimal : digit.isDigit = true) :
    isBlank digit = false := by
  have range : 48 ≤ digit.toNat ∧ digit.toNat ≤ 57 := Char.isDigit_iff_toNat.mp decimal
  simp only [isBlank, Bool.or_eq_false_iff, Bool.and_eq_false_iff, decide_eq_false_iff_not,
    beq_eq_false_iff_ne]
  omega

/-- There are no blanks in a number. -/
theorem isBlank_of_mem_unsigned {text : List Char} {value : Nat}
    (written : IsUnsigned text value) {character : Char} (member : character ∈ text) :
    isBlank character = false := by
  have digits (zeros : Nat)
      (within : character ∈ List.replicate zeros '0' ++ decimal value) :
      isBlank character = false := by
    rcases List.mem_append.mp within with zero | digit
    · rw [List.eq_of_mem_replicate zero]
      decide
    · exact isBlank_of_isDigit (isDigit_of_mem_decimal digit)
  rcases written with ⟨zeros, rfl | rfl⟩
  · exact digits zeros member
  · rcases List.mem_cons.mp member with rfl | within
    · decide
    · exact digits zeros within

theorem ne_nil_of_isUnsigned {text : List Char} {value : Nat}
    (written : IsUnsigned text value) : text ≠ [] := by
  rcases written with ⟨zeros, rfl | rfl⟩
  · exact List.append_ne_nil_of_right_ne_nil _ Nat.toDigits_ne_nil
  · exact List.cons_ne_nil _ _

/-- A number is trimmed out of the blanks around it. -/
theorem trim_eq_of_padded {number text : List Char} {value : Nat}
    (written : IsUnsigned number value) (padded : IsPadded number text) :
    trim text = number :=
  (trim_eq_iff (ne_nil_of_isUnsigned written)
    (isBare_of_forall fun _ => isBlank_of_mem_unsigned written)).mpr padded

end MeshControl.Text
