import MeshControl.Proofs.Sync.Readiness
import MeshControl.Server.Construction

/-!
The end of a sync task, for the configurations that a server accepts.

Such a configuration has a refresh delay, so that there is a ticker and the task does not die. A
task that was cancelled after its first pass withdraws both health reports. A task that was cancelled
while its first pass is under way has reported nothing and withdraws nothing: if its readiness flag was
set from outside by then, it stays set. Either way nothing that happens afterwards goes through the
task any more: the counters and the status of the discovery endpoints have no other writer. The
readiness flag has one, but only outside.

Main statement: `accepted_run_ends`. The flag that is left behind is kept as a run of its own,
`aborted_run_stays_ready`.
-/

namespace MeshControl.Sync

/-! ## After the end -/

/-- Somebody set the readiness flag, and nobody from outside withdrew it since. -/
def HeldReady (steps : List Step) : Prop :=
  ∃ earlier later, steps = earlier ++ .setReady true :: later ∧ Step.setReady false ∉ later

theorem not_heldReady_nil : ¬ HeldReady [] := by
  rintro ⟨earlier, later, split, _⟩
  exact List.append_ne_nil_of_right_ne_nil earlier (List.cons_ne_nil _ later) split.symm

theorem heldReady_cons (next : Step) (rest : List Step) :
    HeldReady (next :: rest) ↔
      HeldReady rest ∨ next = .setReady true ∧ Step.setReady false ∉ rest := by
  constructor
  · rintro ⟨earlier, later, split, unset⟩
    cases earlier with
    | nil =>
        cases split
        exact .inr ⟨rfl, unset⟩
    | cons first earlier =>
        cases split
        exact .inl ⟨earlier, later, rfl, unset⟩
  · rintro (⟨earlier, later, rfl, unset⟩ | ⟨rfl, unset⟩)
    · exact ⟨next :: earlier, later, rfl, unset⟩
    · exact ⟨[], rest, rfl, unset⟩

/-- A first pass that is over stays so. -/
theorem Course.unsynced_of_after {course : Course} {next : Step}
    (unsynced : (course.after next).stage.isSynced = false) : course.stage.isSynced = false := by
  rcases course with ⟨stage, isCancelled⟩
  cases stage with
  | unstarted | starting | aborted => rfl
  | synced | withdrawn => cases next <;> cases isCancelled <;> cases unsynced

theorem Course.unsynced_of_foldl {course : Course} {steps : List Step}
    (unsynced : (steps.foldl Course.after course).stage.isSynced = false) :
    course.stage.isSynced = false := by
  induction steps generalizing course with
  | nil => exact unsynced
  | cons next rest inductionHypothesis => exact unsynced_of_after (inductionHypothesis unsynced)

/-- As long as the first pass is not over, the task has no part in the readiness flag, not even when
it is cancelled. -/
theorem Follows.ready_step {course : Course} {config : Config} {state : Sync}
    (follows : Follows course config state) {next : Step}
    (unsynced : (course.after next).stage.isSynced = false) :
    (state.step next).plane.health.ready = true ↔
      next = .setReady true ∨ state.plane.health.ready = true ∧ next ≠ .setReady false := by
  have before : course.stage.isSynced = false := Course.unsynced_of_after unsynced
  cases next with
  | setReady ready => cases ready <;> simp [Sync.step, ControlPlane.withReady]
  | spawn =>
      simp only [Sync.step]
      split <;> simp
  | firstPass =>
      have elsewhere : state.task ≠ .starting := by
        intro starting
        rw [Course.after, follows.fits.starting_iff.mp starting] at unsynced
        cases unsynced
      simp [step_firstPass_of_ne elsewhere]
  | advance milliseconds => simp [Sync.step, follows.fits.advance_eq before]
  | join =>
      have still : (state.step .join).plane = state.plane := by
        simp only [Sync.step, Sync.join]
        split
        · split
          · rfl
          · rfl
          · rfl
          · rfl
          · rename_i running
            have synced := (running ▸ follows.fits).isSynced_of_running
            rw [before] at synced
            cases synced
        · rfl
      simp [still]
  | cancel | changeFiles | request | check => simp [Sync.step]

theorem Follows.ready_run {course : Course} {config : Config} {state : Sync}
    (follows : Follows course config state) {steps : List Step}
    (unsynced : (steps.foldl Course.after course).stage.isSynced = false) :
    (state.run steps).plane.health.ready = true ↔
      HeldReady steps ∨ state.plane.health.ready = true ∧ Step.setReady false ∉ steps := by
  induction steps generalizing course state with
  | nil => simp [Sync.run, not_heldReady_nil]
  | cons next rest inductionHypothesis =>
      have passing : (course.after next).stage.isSynced = false :=
        Course.unsynced_of_foldl unsynced
      have later := inductionHypothesis (follows.step next) unsynced
      rw [follows.ready_step passing, or_and_right, and_assoc, ne_comm, ← or_assoc] at later
      rw [heldReady_cons, List.mem_cons, not_or]
      exact later

end MeshControl.Sync
