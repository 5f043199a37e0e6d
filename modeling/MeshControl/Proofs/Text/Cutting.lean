import Mathlib.Data.List.TakeWhile

/-!
Where a part of a text ends.

A part is told from what follows it by its characters: all of them are of some kind, and the first
behind it is not. Often there is one mark that the part cannot have and that stands right behind it.
Nothing here depends on what the characters are, so names of files, which are bytes, are cut in the same
way.
-/

namespace MeshControl.Text

variable {α : Type} {within : α → Bool} {part part' rest rest' : List α}

theorem takeWhile_append_of_ends (inside : ∀ c ∈ part, within c = true)
    (outside : ∀ c ∈ rest.head?, within c = false) : (part ++ rest).takeWhile within = part := by
  rw [List.takeWhile_append_of_pos inside]
  cases rest with
  | nil => rw [List.takeWhile_nil, List.append_nil]
  | cons c rest =>
      have other : within c = false := outside c rfl
      rw [List.takeWhile_cons_of_neg (by rw [other]; decide), List.append_nil]

theorem dropWhile_append_of_ends (inside : ∀ c ∈ part, within c = true)
    (outside : ∀ c ∈ rest.head?, within c = false) : (part ++ rest).dropWhile within = rest := by
  have whole := List.takeWhile_append_dropWhile (p := within) (l := part ++ rest)
  rw [takeWhile_append_of_ends inside outside] at whole
  exact List.append_cancel_left whole

variable [DecidableEq α] {mark : α}

/-- A search for a mark passes over a text without it. -/
theorem ne_of_not_mem (absent : mark ∉ part) : ∀ c ∈ part, decide (c ≠ mark) = true := by
  intro c member
  exact decide_eq_true fun same => absent (same ▸ member)

theorem head?_of_mark : ∀ c ∈ (mark :: rest).head?, decide (c ≠ mark) = false := by
  rintro c ⟨⟩
  exact decide_eq_false fun different => different rfl

theorem not_mem_takeWhile (text : List α) : mark ∉ text.takeWhile (· ≠ mark) := by
  intro member
  simpa using List.mem_takeWhile_imp member

theorem takeWhile_append_mark (absent : mark ∉ part) (rest : List α) :
    (part ++ mark :: rest).takeWhile (· ≠ mark) = part :=
  takeWhile_append_of_ends (ne_of_not_mem absent) head?_of_mark

theorem dropWhile_append_mark (absent : mark ∉ part) (rest : List α) :
    (part ++ mark :: rest).dropWhile (· ≠ mark) = mark :: rest :=
  dropWhile_append_of_ends (ne_of_not_mem absent) head?_of_mark

/-- Parts without a mark end at the first mark, so texts with such parts in front of a mark are the
same only part by part. -/
theorem append_inj_of_mark (absent : mark ∉ part) (absent' : mark ∉ part')
    (same : part ++ mark :: rest = part' ++ mark :: rest') : part = part' ∧ rest = rest' := by
  have parts : part = part' := by
    rw [← takeWhile_append_mark absent rest, same, takeWhile_append_mark absent' rest']
  subst parts
  exact ⟨rfl, (List.cons.inj (List.append_cancel_left same)).2⟩

end MeshControl.Text
