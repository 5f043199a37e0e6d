import MeshControl.Proofs.Sync.Readiness

/-!
Taking a control plane out of service while its sync task goes on.

Whoever shuts a control plane down withdraws its readiness first, and then lets the task go on for a
while before it is cancelled. This is safe only if the task has no say in the matter any more. It writes
the readiness flag once, when its first pass is over; from then on the flag has the writers that a step
names, and looking at the configuration files is not among them, whether it succeeds or not. The other
direction is shorter: who sets the flag from outside writes nothing else.

Main statement: `run_drained`.
-/

namespace MeshControl

/-! ## After the first pass -/

/-- How far a task has come: it was started, and its first pass is over or was given up. -/
def SyncTask.progress : SyncTask → Nat
  | .waiting => 0
  | .starting => 1
  | .running _ _ | .crashed | .ended => 2

namespace Sync

/-- A task never goes back. -/
theorem progress_le_step (state : Sync) (next : Step) :
    state.task.progress ≤ (state.step next).task.progress := by
  cases next with
  | spawn =>
      simp only [step]
      split
      · simp [*, SyncTask.progress]
      · exact Nat.le_refl _
  | firstPass =>
      simp only [step]
      split
      · simp only [turnReady]
        split <;> simp [*, SyncTask.progress]
      · exact Nat.le_refl _
  | advance milliseconds =>
      simp only [step, advance]
      split
      · simp [*, SyncTask.progress]
      · exact Nat.le_refl _
  | join =>
      simp only [step, join]
      split
      · split <;> simp [*, SyncTask.progress]
      · exact Nat.le_refl _
  | cancel | changeFiles | setReady | request | check => exact Nat.le_refl _

theorem progress_le_run (state : Sync) (steps : List Step) :
    state.task.progress ≤ (state.run steps).task.progress := by
  induction steps generalizing state with
  | nil => exact Nat.le_refl _
  | cons next rest inductionHypothesis =>
      exact Nat.le_trans (progress_le_step state next) (inductionHypothesis (state.step next))

theorem one_le_progress_spawn (state : Sync) : 1 ≤ (state.step .spawn).task.progress := by
  by_cases waiting : state.task = .waiting
  · simp only [step, waiting]
    exact Nat.le_refl _
  · rw [step_spawn_of_ne waiting]
    cases task : state.task with
    | waiting => exact absurd task waiting
    | starting | running | crashed | ended => simp [SyncTask.progress]

theorem two_le_progress_firstPass {state : Sync} (begun : 1 ≤ state.task.progress) :
    2 ≤ (state.step .firstPass).task.progress := by
  cases task : state.task with
  | waiting =>
      rw [task] at begun
      exact absurd begun (Nat.not_succ_le_zero 0)
  | starting =>
      simp only [step, task, turnReady]
      split <;> exact Nat.le_refl _
  | running | crashed | ended =>
      have elsewhere : state.task ≠ .starting := by
        rw [task]
        rintro ⟨⟩
      rw [step_firstPass_of_ne elsewhere, task]
      exact Nat.le_refl _

/-- A task that was started, and whose first pass came to its end after that, has come all the
way. -/
theorem two_le_progress_of_passed {state : Sync} {steps : List Step}
    (passed : [Step.spawn, Step.firstPass].Sublist steps) :
    2 ≤ (state.run steps).task.progress := by
  rcases List.cons_sublist_iff.mp passed with ⟨early, late, rfl, spawned, rest⟩
  rcases List.append_of_mem spawned with ⟨before, between, rfl⟩
  rcases List.append_of_mem (List.singleton_sublist.mp rest) with ⟨meanwhile, after, rfl⟩
  have started := one_le_progress_spawn (state.run before)
  have begun := Nat.le_trans started (progress_le_run _ (between ++ meanwhile))
  have past := two_le_progress_firstPass begun
  have taken : state.run (before ++ .spawn :: between ++ (meanwhile ++ .firstPass :: after)) =
      ((((state.run before).step .spawn).run (between ++ meanwhile)).step .firstPass).run after := by
    simp only [run, List.foldl_append, List.foldl_cons]
  rw [taken]
  exact Nat.le_trans past (progress_le_run _ after)

/-! ## The readiness flag -/

/-- What a step makes of the readiness flag of a control plane whose task is past its first pass. -/
def readyAfter (state : Sync) : Step → Bool
  | .setReady ready => ready
  | .join =>
    match state.isCancelled, state.task with
    | true, .running _ _ => false
    | _, _ => state.plane.health.ready
  | .spawn | .firstPass | .advance _ | .cancel | .changeFiles _ | .request _ | .check _ =>
    state.plane.health.ready

theorem ready_step {state : Sync} (past : 2 ≤ state.task.progress) (next : Step) :
    (state.step next).plane.health.ready = state.readyAfter next := by
  cases next with
  | spawn =>
      simp only [step, readyAfter]
      split <;> rfl
  | firstPass =>
      have elsewhere : state.task ≠ .starting := by
        intro starting
        rw [starting] at past
        exact absurd past (Nat.not_succ_le_self 1)
      rw [step_firstPass_of_ne elsewhere, readyAfter]
  | advance milliseconds => exact congrArg Health.ready (advance_keeps state milliseconds).2.1
  | join =>
      simp only [step, join, readyAfter]
      cases state.isCancelled with
      | false => rfl
      | true => cases task : state.task <;> simp [Health.initial]
  | cancel | setReady | changeFiles | request | check => rfl

/-- A step that changes the flag sets it from outside, or sees the end of a task that ran and was
cancelled. -/
theorem writer_of_ready_ne {state : Sync} (past : 2 ≤ state.task.progress) {next : Step}
    (changed : (state.step next).plane.health.ready ≠ state.plane.health.ready) :
    next = .setReady (state.step next).plane.health.ready ∨
      next = .join ∧ state.isCancelled = true ∧
        (∃ elapsed ticker, state.task = .running elapsed ticker) ∧
        (state.step next).plane.health.ready = false := by
  rw [ready_step past] at changed ⊢
  cases next with
  | setReady ready => exact .inl rfl
  | join =>
      simp only [readyAfter] at changed
      split at changed
      · rename_i elapsed ticker token running
        have withdrawn : state.readyAfter .join = false := by simp only [readyAfter, token, running]
        exact .inr ⟨rfl, token, ⟨elapsed, ticker, running⟩, withdrawn⟩
      · exact absurd rfl changed
  | spawn | firstPass | advance | cancel | changeFiles | request | check =>
      exact absurd rfl changed

/-- The flag does not change while nobody writes it. -/
theorem ready_run {state : Sync} (past : 2 ≤ state.task.progress) {steps : List Step}
    (unset : ∀ ready, Step.setReady ready ∉ steps)
    (lives : Step.join ∉ steps ∨ (state.run steps).isCancelled = false) :
    (state.run steps).plane.health.ready = state.plane.health.ready := by
  induction steps generalizing state with
  | nil => rfl
  | cons next rest inductionHypothesis =>
      have kept : (state.step next).plane.health.ready = state.plane.health.ready := by
        refine Decidable.byContradiction fun changed => ?_
        rcases writer_of_ready_ne past changed with set | ⟨joined, cancelled, -⟩
        · apply unset (state.step next).plane.health.ready
          rw [← set]
          exact List.mem_cons_self
        · rcases lives with unjoined | uncancelled
          · exact unjoined (joined ▸ List.mem_cons_self)
          · rw [(isCancelled_run _ _).mpr (.inl cancelled)] at uncancelled
            cases uncancelled
      rw [← kept]
      apply inductionHypothesis (Nat.le_trans past (progress_le_step state next))
      · exact fun ready member => unset ready (List.mem_cons_of_mem next member)
      · exact lives.imp_left fun unjoined member => unjoined (List.mem_cons_of_mem next member)

/-- A flag that was withdrawn stays so until somebody sets it. -/
theorem unready_run {state : Sync} (past : 2 ≤ state.task.progress)
    (unready : state.plane.health.ready = false) {steps : List Step}
    (unset : Step.setReady true ∉ steps) : (state.run steps).plane.health.ready = false := by
  induction steps generalizing state with
  | nil => exact unready
  | cons next rest inductionHypothesis =>
      have kept : (state.step next).plane.health.ready = false := by
        refine eq_false_of_ne_true fun ready => ?_
        have changed : (state.step next).plane.health.ready ≠ state.plane.health.ready := by
          rw [ready, unready]
          nofun
        -- The flag can only be made positive by who sets it, since the end of a task withdraws it.
        rcases writer_of_ready_ne past changed with set | ⟨-, -, -, withdrawn⟩
        · rw [ready] at set
          exact unset (set ▸ List.mem_cons_self)
        · rw [ready] at withdrawn
          cases withdrawn
      exact inductionHypothesis (Nat.le_trans past (progress_le_step state next)) kept
        fun member => unset (List.mem_cons_of_mem next member)

/-- The readiness page shows the flag. -/
theorem status_ready {request : PageRequest} (asked : request.method = "GET")
    (found : request.path = Page.ready.path) (plane : ControlPlane) :
    (plane.answer request).status = if plane.health.ready then 200 else 503 := by
  rw [ControlPlane.answer_get asked found]
  rfl

/-- Draining is not undone by rescans.

Once the first pass of a task is over, the readiness flag changes only when it is set from outside or
when a task that runs is cancelled and its end is seen, which withdraws it. While neither happens the
flag stays as it is, whatever becomes of the files and however often they are looked at. After it was
withdrawn, the readiness page says no until the flag is set. Who sets it changes neither the status of
the discovery endpoints nor the counters. Requests and health checks change nothing at all. -/
theorem run_drained (plane : ControlPlane) (files : FileTree) {steps : List Step}
    (passed : [Step.spawn, Step.firstPass].Sublist steps) {request : PageRequest}
    (asked : request.method = "GET") (found : request.path = Page.ready.path) :
    let state := (ofPlane plane files).run steps
    (∀ next, (state.step next).plane.health.ready ≠ state.plane.health.ready →
      next = .setReady (state.step next).plane.health.ready ∨
        next = .join ∧ Step.cancel ∈ steps ∧
          (∃ elapsed ticker, state.task = .running elapsed ticker) ∧
          (state.step next).plane.health.ready = false) ∧
    (∀ later, (∀ ready, Step.setReady ready ∉ later) →
      Step.join ∉ later ∨ Step.cancel ∉ steps ++ later →
      (state.run later).plane.health.ready = state.plane.health.ready) ∧
    (∀ later, Step.setReady true ∉ later →
      ((state.run (.setReady false :: later)).plane.answer request).status = 503) ∧
    (∀ ready,
      (state.step (.setReady ready)).plane.health.check discoveryService =
        state.plane.health.check discoveryService ∧
      (state.step (.setReady ready)).plane.counters = state.plane.counters) ∧
    (∀ asking, state.step (.request asking) = state) ∧
    ∀ service, state.step (.check service) = state := by
  intro state
  have past : 2 ≤ state.task.progress := two_le_progress_of_passed passed
  have token (every : List Step) :
      ((ofPlane plane files).run every).isCancelled = true ↔ Step.cancel ∈ every := by
    simp [isCancelled_run, ofPlane]
  refine ⟨?_, ?_, ?_, ?_, ?_, ?_⟩
  · intro next changed
    exact (writer_of_ready_ne past changed).imp_right
      (And.imp_right (And.imp_left (token steps).mp))
  · intro later unset lives
    apply ready_run past unset
    apply lives.imp_right
    rw [← token, run_append, Bool.not_eq_true]
    exact id
  · intro later unset
    have withdrawn : (state.step (.setReady false)).plane.health.ready = false := rfl
    have unready : (state.run (.setReady false :: later)).plane.health.ready = false :=
      unready_run (Nat.le_trans past (progress_le_step _ _)) withdrawn unset
    rw [status_ready asked found, unready]
    rfl
  · intro ready
    simp only [Health.check_discoveryService]
    exact ⟨rfl, rfl⟩
  · exact fun asking => rfl
  · exact fun service => rfl

/-- The readiness is withdrawn while the task runs. The directory is removed, so that the passes after
that fail, and comes back with another file in it. The readiness page goes on saying no. -/
theorem run_drained_rescanned :
    let conf : FileName := .ofText "conf".toList
    let route : FileName := .ofText "route.yaml".toList
    let later : List Step := [.changeFiles [.remove [conf]], .advance 20,
      .changeFiles [.put [conf, route] (.file .other)], .advance 20]
    ∃ plane, ControlPlane.ofConfig watchful = .ok plane ∧
      ((((ofPlane plane watched).run [.spawn, .firstPass, .advance 20]).run
        (.setReady false :: later)).plane.answer ⟨"GET", "/ready", ""⟩).status = 503 := by
  intro conf route later
  have plannable : ∃ plane, ControlPlane.ofConfig watchful = .ok plane := ⟨_, rfl⟩
  rcases plannable with ⟨plane, planned⟩
  have found : PageRequest.path ⟨"GET", "/ready", ""⟩ = Page.ready.path := by decide +kernel
  have passed : [Step.spawn, .firstPass].Sublist [.spawn, .firstPass, .advance 20] :=
    List.sublist_append_left [Step.spawn, .firstPass] [.advance 20]
  have drained := run_drained plane watched passed rfl found
  exact ⟨plane, planned, drained.2.2.1 later (by simp [later])⟩

end Sync

end MeshControl
