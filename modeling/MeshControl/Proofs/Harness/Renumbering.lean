import MeshControl.Proofs.Harness.Accounting

/-!
Two harnesses that differ only in how far they have counted.

The number of an attempt decides which server a closer can tear down, and nothing else. So a
harness that has made some attempts and published none of them should be as good as a new one. It
does not become equal to a new one, because it goes on counting where it is. Equality is therefore
replaced by a relation under which the numbers of one harness are those of the other plus a fixed
offset. Numbers up to the offset belong to the past of the first harness, about which the relation
says nothing.
-/

namespace MeshControl.Harness

variable {Configuration Instance : Type}

/-! ## Counting from an offset -/

/-- The same server, had there been more attempts before. -/
def Running.later (offset : Nat) (running : Running Instance) : Running Instance :=
  { running with generation := running.generation + offset }

/-- The closer of the same attempt, had there been more attempts before. -/
def Closer.later (offset : Nat) (closer : Closer) : Closer :=
  ⟨closer.generation + offset⟩

/-- The closer of the same attempt, had counting begun at the offset. A closer from before has no
such counterpart. -/
def Closer.since (offset : Nat) (closer : Closer) : Option Closer :=
  if closer.generation ≤ offset then none else some ⟨closer.generation - offset⟩

/-- What a call ends with, had there been more attempts before. -/
def Outcome.later (offset : Nat) :
    Outcome (Running Instance × Closer) → Outcome (Running Instance × Closer)
  | .done (running, closer) => .done (running.later offset, closer.later offset)
  | .failed error => .failed error
  | .panicked text => .panicked text

/-- Renumbering does not change who shares a server with whom. -/
theorem Running.isSame_later (offset : Nat) (first second : Running Instance) :
    (first.later offset).isSame (second.later offset) = first.isSame second := by
  rw [Bool.eq_iff_iff]
  simp [isSame, later]

theorem Closer.since_eq_some_iff {offset : Nat} {closer counterpart : Closer} :
    closer.since offset = some counterpart ↔
      0 < counterpart.generation ∧ closer = counterpart.later offset := by
  cases closer with
  | mk generation =>
      cases counterpart with
      | mk number =>
          simp only [since, later, Closer.mk.injEq]
          split
          · simp only [reduceCtorEq, false_iff]
            omega
          · simp only [Option.some.injEq, Closer.mk.injEq]
            omega

theorem Closer.since_eq_none_iff {offset : Nat} {closer : Closer} :
    closer.since offset = none ↔ closer.generation ≤ offset := by
  simp [since]

/-! ## The relation -/

/-- The first harness is the second one, counting from an offset. -/
structure Renumbered (offset : Nat) (left right : Harness Instance) : Prop where
  settings : left.settings = right.settings
  generation : left.generation = right.generation + offset
  published : left.published = right.published.map (Running.later offset)
  signalled : ∀ generation,
    0 < generation → left.isSignalled (generation + offset) = right.isSignalled generation

namespace Renumbered

variable {offset : Nat} {left right : Harness Instance}

theorem putPublished (renumbered : Renumbered offset left right)
    (published : Option (Running Instance)) :
    Renumbered offset (left.putPublished (published.map (Running.later offset)))
      (right.putPublished published) where
  settings := renumbered.settings
  generation := by simpa using renumbered.generation
  published := by simp
  signalled := renumbered.signalled

theorem signal (renumbered : Renumbered offset left right) (generation : Nat) :
    Renumbered offset (left.signal (generation + offset)) (right.signal generation) where
  settings := by simpa using renumbered.settings
  generation := by simpa using renumbered.generation
  published := by simpa using renumbered.published
  signalled other positive := by
    have same : other + offset = generation + offset ↔ other = generation := by omega
    simp only [isSignalled_signal, renumbered.signalled other positive, same]

theorem withdraw (renumbered : Renumbered offset left right) :
    Renumbered offset left.withdraw right.withdraw := by
  unfold Harness.withdraw
  rw [renumbered.published]
  cases right.published with
  | none => exact renumbered
  | some running => exact (renumbered.putPublished none).signal running.generation

theorem release (renumbered : Renumbered offset left right) (generation : Nat) :
    Renumbered offset (left.release (generation + offset)) (right.release generation) := by
  rw [release_eq, release_eq, renumbered.published]
  cases right.published with
  | none => exact renumbered
  | some running =>
      have same : running.generation + offset = generation + offset ↔
          running.generation = generation := by omega
      by_cases found : running.generation = generation
      · simpa [Running.later, same, found] using renumbered.withdraw
      · simpa [Running.later, same, found] using renumbered

/-- What is published now does not come from before the offset, so a release from before misses
it. -/
theorem release_earlier (renumbered : Renumbered offset left right)
    (rightConsistent : right.Consistent) {generation : Nat} (earlier : generation ≤ offset) :
    left.release generation = left := by
  rw [release_eq, renumbered.published]
  cases found : right.published with
  | none => rfl
  | some running =>
      have range := rightConsistent.accounted_range _ (.inr ⟨running, found, rfl⟩)
      have other : running.generation + offset ≠ generation := by omega
      simp [Running.later, other]

theorem afterAttempt (renumbered : Renumbered offset left right) (result : Attempt Instance) :
    Renumbered offset (left.afterAttempt result) (right.afterAttempt result) where
  settings := renumbered.settings
  generation := by
    rw [generation_afterAttempt, generation_afterAttempt, renumbered.generation]
    omega
  published := by simpa using renumbered.published
  signalled := renumbered.signalled

theorem poison (renumbered : Renumbered offset left right) :
    Renumbered offset left.poison right.poison where
  settings := renumbered.settings
  generation := by simpa using renumbered.generation
  published := by simpa using renumbered.published
  signalled := renumbered.signalled

/-- An attempt depends on the settings and on what it finds outside, and not on earlier
attempts. -/
theorem bringUp (renumbered : Renumbered offset left right)
    (circumstances : Circumstances Configuration Instance)
    (overrides : List (Override Configuration)) :
    (left.bringUp circumstances overrides).1 =
        (right.bringUp circumstances overrides).1.later offset ∧
      Renumbered offset (left.bringUp circumstances overrides).2
        (right.bringUp circumstances overrides).2 := by
  have counted := renumbered.afterAttempt (attempt right.settings circumstances overrides)
  simp only [Harness.bringUp, renumbered.settings, counted.generation]
  cases (attempt right.settings circumstances overrides).outcome with
  | done published => exact ⟨rfl, counted.putPublished (some ⟨_, published.1, published.2⟩)⟩
  | failed error =>
      refine ⟨rfl, ?_⟩
      cases (attempt right.settings circumstances overrides).launched with
      | true => exact counted.signal _
      | false => exact counted
  | panicked text => exact ⟨rfl, counted.poison⟩

theorem ensureRunning (renumbered : Renumbered offset left right)
    (leftConsistent : left.Consistent) (rightConsistent : right.Consistent)
    (circumstances : Circumstances Configuration Instance)
    (overrides : List (Override Configuration)) :
    (left.ensureRunning circumstances overrides).1 =
        (right.ensureRunning circumstances overrides).1.later offset ∧
      Renumbered offset (left.ensureRunning circumstances overrides).2
        (right.ensureRunning circumstances overrides).2 := by
  rw [leftConsistent.ensureRunning_eq, rightConsistent.ensureRunning_eq, renumbered.published]
  cases right.published with
  | none => exact renumbered.bringUp circumstances overrides
  | some running => exact ⟨rfl, renumbered⟩

end Renumbered

/-- An empty harness is a new one that counts from where it is. -/
theorem Consistent.renumbered_new {harness : Harness Instance} (consistent : harness.Consistent)
    (empty : harness.published = none) :
    Renumbered harness.generation harness (.new harness.settings) where
  settings := rfl
  generation := (Nat.zero_add _).symm
  published := empty
  signalled generation positive := by
    cases signalled : harness.isSignalled (generation + harness.generation) with
    | false => rfl
    | true =>
        have past := consistent.accounted_range _ (.inl signalled)
        omega

end MeshControl.Harness
