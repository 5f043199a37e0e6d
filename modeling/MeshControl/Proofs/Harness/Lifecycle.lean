import MeshControl.Harness.Callers
import MeshControl.Proofs.Harness.Accounting

/-!
The life of a harness among its callers.

Steps of any number of callers come in any order, and the two halves of closing may lie far apart.
What makes the second half harmless is the order of the halves: whoever still has to signal
released the server first, and a server that leaves the slot is signalled on its way out. The
second half therefore never changes anything, whatever happened in between.

Main statement: `run_lifecycle`.
-/

namespace MeshControl.Harness.Callers

variable {Configuration Instance : Type}

/-- What holds of a harness and its callers between any two steps. -/
structure Consistent (callers : Callers Instance) : Prop where
  harness_consistent : callers.harness.Consistent
  /-- Every closer belongs to an attempt that is accounted for. -/
  handed_accounted : ∀ closer ∈ callers.closers, callers.harness.Accounted closer.generation
  /-- Whoever still has to signal comes too late to change anything. -/
  closing_signalled : ∀ closer ∈ callers.closing,
    callers.harness.isSignalled closer.generation = true
  /-- A harness that was given up publishes nothing any more. -/
  givenUp_empty : callers.isGivenUp = true → callers.harness.published = none

theorem new_consistent (settings : Settings) :
    (Callers.new settings : Callers Instance).Consistent where
  harness_consistent := Harness.new_consistent settings
  handed_accounted _ member := by cases member
  closing_signalled _ member := by cases member
  givenUp_empty givenUp := by cases givenUp

namespace Consistent

variable {callers : Callers Instance}

/-- Replace the harness by a later one. -/
private theorem advance (consistent : callers.Consistent) {later : Harness Instance}
    (sound : later.Consistent) (keeps : Keeps callers.harness later)
    (empty : callers.isGivenUp = true → later.published = none) :
    { callers with harness := later }.Consistent where
  harness_consistent := sound
  handed_accounted closer member :=
    keeps.accounted _ (consistent.handed_accounted closer member)
  closing_signalled closer member :=
    keeps.signalled _ (consistent.closing_signalled closer member)
  givenUp_empty := empty

/-- Hand out more closers of attempts that are accounted for. -/
private theorem hand (consistent : callers.Consistent) (handed : List Closer)
    (accounted : ∀ closer ∈ handed, callers.harness.Accounted closer.generation) :
    { callers with closers := callers.closers ++ handed }.Consistent where
  harness_consistent := consistent.harness_consistent
  handed_accounted closer member := by
    rcases List.mem_append.mp member with earlier | latest
    · exact consistent.handed_accounted closer earlier
    · exact accounted closer latest
  closing_signalled := consistent.closing_signalled
  givenUp_empty := consistent.givenUp_empty

private theorem ensure (consistent : callers.Consistent)
    (circumstances : Circumstances Configuration Instance)
    (overrides : List (Override Configuration)) :
    (callers.step (.ensure circumstances overrides)).Consistent := by
  simp only [step, act]
  split
  · exact consistent
  · rename_i kept
    have sound := consistent.harness_consistent
    apply hand (consistent.advance (sound.ensureRunning circumstances overrides)
      (sound.keeps_ensureRunning circumstances overrides) (fun givenUp => absurd givenUp kept))
    intro closer member
    cases ending : (callers.harness.ensureRunning circumstances overrides).1 with
    | done result =>
        rcases result with ⟨running, handed⟩
        rcases sound.ensureRunning_done circumstances overrides ending with ⟨published, same, _⟩
        simp only [ending, handedOut, List.mem_singleton] at member
        subst member
        exact .inr ⟨running, published, same.symm⟩
    | failed error => simp [ending, handedOut] at member
    | panicked text => simp [ending, handedOut] at member

private theorem cloneCloser (consistent : callers.Consistent) (closer : Closer) :
    (callers.step (.cloneCloser closer : Step Configuration Instance)).Consistent := by
  simp only [step, act]
  split
  · rename_i handed
    apply consistent.hand
    intro clone member
    rw [List.mem_singleton] at member
    subst member
    exact consistent.handed_accounted clone handed
  · exact consistent

private theorem release (consistent : callers.Consistent) (closer : Closer) :
    (callers.step (.release closer : Step Configuration Instance)).Consistent := by
  simp only [step, act]
  split
  · rename_i handed
    have accounted := consistent.handed_accounted closer handed
    have released := consistent.advance
      (consistent.harness_consistent.release closer.generation)
      (callers.harness.keeps_release closer.generation) (by
        intro givenUp
        simp [release_eq, consistent.givenUp_empty givenUp])
    refine ⟨released.harness_consistent, released.handed_accounted, ?_, released.givenUp_empty⟩
    intro pending member
    rcases List.mem_append.mp member with earlier | latest
    · exact released.closing_signalled pending earlier
    · rw [List.mem_singleton] at latest
      subst latest
      exact isSignalled_release accounted
  · exact consistent

/-- The second half of closing changes nothing but the list of those who have it before them. -/
theorem harness_signal (consistent : callers.Consistent) (closer : Closer) :
    (callers.step (.signal closer : Step Configuration Instance)).harness = callers.harness := by
  simp only [step, act]
  split
  · rename_i pending
    exact signal_of_isSignalled (consistent.closing_signalled closer pending)
  · rfl

private theorem signal (consistent : callers.Consistent) (closer : Closer) :
    (callers.step (.signal closer : Step Configuration Instance)).Consistent := by
  simp only [step, act]
  split
  · rename_i pending
    simp only [signal_of_isSignalled (consistent.closing_signalled closer pending)]
    exact ⟨consistent.harness_consistent, consistent.handed_accounted,
      fun other member => consistent.closing_signalled other (List.mem_of_mem_erase member),
      consistent.givenUp_empty⟩
  · exact consistent

private theorem drop (consistent : callers.Consistent) :
    (callers.step (.drop : Step Configuration Instance)).Consistent := by
  simp only [step, act]
  split
  · exact consistent
  · have withdrawn := consistent.advance consistent.harness_consistent.withdraw
      callers.harness.keeps_withdraw (fun _ => published_withdraw _)
    exact ⟨withdrawn.harness_consistent, withdrawn.handed_accounted, withdrawn.closing_signalled,
      fun _ => published_withdraw _⟩

/-- One step keeps everything consistent, whoever takes it. -/
theorem step (consistent : callers.Consistent) (next : Step Configuration Instance) :
    (callers.step next).Consistent := by
  cases next with
  | ensure circumstances overrides => exact consistent.ensure circumstances overrides
  | current =>
      rw [step_current]
      exact consistent
  | cloneCloser closer => exact consistent.cloneCloser closer
  | isClosed closer =>
      rw [step_isClosed]
      exact consistent
  | release closer => exact consistent.release closer
  | signal closer => exact consistent.signal closer
  | drop => exact consistent.drop

theorem run (consistent : callers.Consistent) (steps : List (Step Configuration Instance)) :
    (callers.run steps).Consistent := by
  induction steps generalizing callers with
  | nil => exact consistent
  | cons next rest inductionHypothesis => exact inductionHypothesis (consistent.step next)

end Consistent

/-- No step takes anything back: signals stay, and every attempt stays accounted for. -/
theorem Consistent.keeps_step {callers : Callers Instance} (consistent : callers.Consistent)
    (next : Step Configuration Instance) : Keeps callers.harness (callers.step next).harness := by
  cases next with
  | ensure circumstances overrides =>
      simp only [Callers.step, act]
      split
      · exact Keeps.refl _
      · exact consistent.harness_consistent.keeps_ensureRunning circumstances overrides
  | release closer =>
      simp only [Callers.step, act]
      split
      · exact callers.harness.keeps_release closer.generation
      · exact Keeps.refl _
  | signal closer =>
      rw [consistent.harness_signal closer]
      exact Keeps.refl _
  | drop =>
      simp only [Callers.step, act]
      split
      · exact Keeps.refl _
      · exact callers.harness.keeps_withdraw
  | current =>
      rw [step_current]
      exact Keeps.refl _
  | cloneCloser closer =>
      simp only [Callers.step, act]
      split <;> exact Keeps.refl _
  | isClosed closer =>
      rw [step_isClosed]
      exact Keeps.refl _

theorem Consistent.keeps_run {callers : Callers Instance} (consistent : callers.Consistent)
    (steps : List (Step Configuration Instance)) :
    Keeps callers.harness (callers.run steps).harness := by
  induction steps generalizing callers with
  | nil => exact Keeps.refl _
  | cons next rest inductionHypothesis =>
      exact (consistent.keeps_step next).trans (inductionHypothesis (consistent.step next))

@[simp]
theorem settings_step (callers : Callers Instance) (next : Step Configuration Instance) :
    (callers.step next).harness.settings = callers.harness.settings := by
  cases next <;> simp only [step, act] <;> split <;> simp [Harness.drop]

@[simp]
theorem settings_run (callers : Callers Instance) (steps : List (Step Configuration Instance)) :
    (callers.run steps).harness.settings = callers.harness.settings := by
  induction steps generalizing callers with
  | nil => rfl
  | cons next rest inductionHypothesis =>
      exact (inductionHypothesis (callers.step next)).trans (settings_step callers next)

/-- Whatever callers do, and in whatever order, they leave a consistent harness. -/
theorem run_consistent (settings : Settings) (steps : List (Step Configuration Instance)) :
    ((Callers.new settings).run steps).Consistent :=
  (new_consistent settings).run steps

/-- A call that was answered was made on a harness that nobody had given up, and leaves it so. -/
theorem ensured {callers : Callers Instance}
    {circumstances : Circumstances Configuration Instance}
    {overrides : List (Override Configuration)} {outcome : Outcome (Running Instance × Closer)}
    (called : callers.answer (.ensure circumstances overrides) = .ensured outcome) :
    (callers.harness.ensureRunning circumstances overrides).1 = outcome ∧
      (callers.step (.ensure circumstances overrides)).isGivenUp = false ∧
      (callers.step (.ensure circumstances overrides)).harness =
        (callers.harness.ensureRunning circumstances overrides).2 := by
  cases givenUp : callers.isGivenUp with
  | true => simp [answer, act, givenUp] at called
  | false =>
      simp only [answer, step, act, givenUp, Bool.false_eq_true, if_false, Answer.ensured.injEq]
        at called ⊢
      exact ⟨called, trivial, trivial⟩

/-- The life of a harness, at any moment between two steps of its callers.

The server in the slot comes from the latest attempt and was not told to shut down. Every thread
that was ever launched was told to shut down, unless it runs that very server, so that at most one
is live. Who asks for the current server gets the one in the slot, even after a panic poisoned the
lock, and a harness that was given up has none. A call that returns a server returns one that
nobody had signalled before, and leaves it in the slot. -/
theorem run_lifecycle (settings : Settings) (steps : List (Step Configuration Instance)) :
    let callers := (Callers.new settings).run steps
    (∀ running, callers.harness.published = some running →
      running.generation = callers.harness.generation ∧
        callers.harness.isSignalled running.generation = false) ∧
    (∀ record ∈ callers.harness.records, record.launched = true →
      (∀ running, callers.harness.published = some running →
        running.generation ≠ record.generation) →
      callers.harness.isSignalled record.generation = true) ∧
    callers.harness.live.length ≤ 1 ∧
    (callers.isGivenUp = false →
      callers.answer (.current : Step Configuration Instance) =
        .current callers.harness.published) ∧
    (callers.isGivenUp = true → callers.harness.published = none) ∧
    ∀ (circumstances : Circumstances Configuration Instance)
      (overrides : List (Override Configuration)) (running : Running Instance) (closer : Closer),
      callers.answer (.ensure circumstances overrides) = .ensured (.done (running, closer)) →
        callers.harness.isSignalled running.generation = false ∧
          (callers.step (.ensure circumstances overrides)).harness.published = some running := by
  intro callers
  have consistent : callers.Consistent := run_consistent settings steps
  have sound := consistent.harness_consistent
  refine ⟨?_, ?_, sound.live_length_le_one, answer_current, consistent.givenUp_empty, ?_⟩
  · intro running published
    exact ⟨sound.published_latest running published, sound.published_open running published⟩
  · intro record recorded launched other
    rcases sound.launched_accounted record recorded launched with
      signalled | ⟨running, published, same⟩
    · exact signalled
    · exact absurd same (other running published)
  · intro circumstances overrides running closer answered
    rcases ensured answered with ⟨done, _, reached⟩
    have returned := sound.ensureRunning_done circumstances overrides done
    rw [reached]
    exact ⟨returned.2.2, returned.1⟩

end MeshControl.Harness.Callers
