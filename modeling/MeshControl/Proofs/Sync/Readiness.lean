import MeshControl.Proofs.Sync.Passes

/-!
The two health reports of a control plane while its sync task lives and after it.

The readiness flag and the status of the discovery endpoints are kept in two places, and only the
flag can be set from outside. What the task does to either of them depends on its stage alone, and
the stage is read off the steps without looking at the task: it was not started yet, its first pass
is under way, that pass is over, or the task is over, before or after its first pass. One step keeps
the task in its stage or takes it to the next one. The flag then needs no account of its own as long
as nobody sets it from outside, because every write to one report comes with the same write to the
other.

Main statement: `run_readiness`.
-/

namespace MeshControl.Sync

/-! ## Stages -/

/-- How far the task of a run has come. -/
inductive Stage where
  | unstarted
  /-- Its first pass is under way. -/
  | starting
  /-- It was cancelled before its first pass was over, and gave it up. -/
  | aborted
  /-- Its first pass is over. -/
  | synced
  /-- It was cancelled after its first pass, and its end was seen. -/
  | withdrawn
deriving DecidableEq

/-- Whether the first pass was completed. -/
def Stage.isSynced : Stage → Bool
  | .synced | .withdrawn => true
  | .unstarted | .starting | .aborted => false

/-- The stage of a task, and whether it was cancelled so far. -/
structure Course where
  stage : Stage
  isCancelled : Bool

/-- A task is started once, and its end is seen once, after it was cancelled. -/
def Course.after (course : Course) : Step → Course
  | .spawn =>
    match course.stage with
    | .unstarted => { course with stage := .starting }
    | .starting | .aborted | .synced | .withdrawn => course
  | .firstPass =>
    match course.stage with
    | .starting => { course with stage := .synced }
    | .unstarted | .aborted | .synced | .withdrawn => course
  | .cancel => { course with isCancelled := true }
  | .join =>
    if course.isCancelled then
      match course.stage with
      | .starting => { course with stage := .aborted }
      | .synced => { course with stage := .withdrawn }
      | .unstarted | .aborted | .withdrawn => course
    else course
  | .advance _ | .changeFiles _ | .setReady _ | .request _ | .check _ => course

def courseOf (steps : List Step) : Course :=
  steps.foldl Course.after ⟨.unstarted, false⟩

def stageOf (steps : List Step) : Stage :=
  (courseOf steps).stage

/-- What a task is at a stage. Without a refresh delay it dies after its first pass. -/
def Stage.Fits (stage : Stage) (config : Config) (task : SyncTask) : Prop :=
  match stage with
  | .unstarted => task = .waiting
  | .starting => task = .starting
  | .synced =>
    if config.refreshDelayMs = 0 then task = .crashed
    else ∃ elapsed ticker, task = .running elapsed ticker
  | .aborted | .withdrawn => task = .ended

/-- What is reported of the discovery endpoints at a stage. A task that died reports nothing
more. -/
def Stage.discovery (stage : Stage) (config : Config) : ServingStatus :=
  match stage with
  | .unstarted | .starting | .aborted => .notServing
  | .synced => .serving
  | .withdrawn => if config.refreshDelayMs = 0 then .serving else .notServing

/-! ## What a stretch of time leaves alone -/

/-- Passes change the counters only, and count up. -/
theorem catchUp_keeps (files : FileTree) (now : Nat) (ticker : Ticker) (plane : ControlPlane) :
    (catchUp files now ticker plane).2.config = plane.config ∧
      (catchUp files now ticker plane).2.health = plane.health ∧
      plane.counters.syncs ≤ (catchUp files now ticker plane).2.counters.syncs := by
  fun_induction catchUp files now ticker plane with
  | case1 ticker plane due inductionHypothesis =>
      rcases inductionHypothesis with ⟨config, health, syncs⟩
      exact ⟨config, health, Nat.le_of_succ_le syncs⟩
  | case2 ticker plane ahead => exact ⟨rfl, rfl, Nat.le_refl _⟩

theorem advance_keeps (state : Sync) (stretch : Nat) :
    (state.advance stretch).plane.config = state.plane.config ∧
      (state.advance stretch).plane.health = state.plane.health ∧
      state.plane.counters.syncs ≤ (state.advance stretch).plane.counters.syncs := by
  unfold advance
  split
  · exact catchUp_keeps _ _ _ _
  · exact ⟨rfl, rfl, Nat.le_refl _⟩

theorem isCancelled_advance (state : Sync) (stretch : Nat) :
    (state.advance stretch).isCancelled = state.isCancelled := by
  unfold advance
  split <;> rfl

/-- Nobody but who cancels the task fires its token, and nobody takes that back. -/
theorem isCancelled_step (state : Sync) (next : Step) :
    (state.step next).isCancelled = true ↔ state.isCancelled = true ∨ next = .cancel := by
  cases next with
  | cancel => exact iff_of_true rfl (.inr rfl)
  | spawn | firstPass =>
      simp only [step]
      split <;> simp [turnReady]
  | advance milliseconds => simp [step, isCancelled_advance]
  | join =>
      simp only [step, join]
      split
      · split <;> simp
      · simp
  | changeFiles | setReady | request | check => simp [step]

theorem isCancelled_run (state : Sync) (steps : List Step) :
    (state.run steps).isCancelled = true ↔ state.isCancelled = true ∨ Step.cancel ∈ steps := by
  induction steps generalizing state with
  | nil => simp [run]
  | cons next rest inductionHypothesis =>
      have later := inductionHypothesis (state.step next)
      rw [isCancelled_step, or_assoc, eq_comm (a := next), ← List.mem_cons] at later
      exact later

/-- Before the first pass is over, no time passes for the task. -/
theorem Stage.Fits.advance_eq {stage : Stage} {config : Config} {state : Sync}
    (fits : stage.Fits config state.task) (unsynced : stage.isSynced = false) (stretch : Nat) :
    state.advance stretch = state := by
  cases stage with
  | unstarted | starting | aborted => simp only [Sync.advance, show state.task = _ from fits]
  | synced | withdrawn => cases unsynced

theorem Stage.Fits.advance {stage : Stage} {config : Config} {state : Sync}
    (fits : stage.Fits config state.task) (stretch : Nat) :
    stage.Fits config (state.advance stretch).task := by
  cases stage with
  | unstarted | starting | aborted => exact (fits.advance_eq rfl stretch).symm ▸ fits
  | synced =>
      by_cases unlimited : config.refreshDelayMs = 0
      · rw [Fits, if_pos unlimited] at fits ⊢
        simp only [Sync.advance, fits]
      · rw [Fits, if_neg unlimited] at fits ⊢
        rcases fits with ⟨elapsed, ticker, running⟩
        simp only [Sync.advance, running]
        exact ⟨_, _, rfl⟩
  | withdrawn => simp only [Sync.advance, show state.task = .ended from fits, Fits]

/-! ## What a task tells of its stage -/

theorem Stage.Fits.isSynced_of_running {stage : Stage} {config : Config} {elapsed : Nat}
    {ticker : Ticker} (fits : stage.Fits config (.running elapsed ticker)) :
    stage.isSynced = true := by
  cases stage with
  | synced | withdrawn => rfl
  | unstarted | starting | aborted => cases fits

/-- After the first pass a task runs or is dead. -/
theorem Stage.Fits.synced_ne {config : Config} {task : SyncTask}
    (fits : Stage.synced.Fits config task) : task ≠ .waiting ∧ task ≠ .starting := by
  by_cases unlimited : config.refreshDelayMs = 0
  · rw [Fits, if_pos unlimited] at fits
    rw [fits]
    exact ⟨by rintro ⟨⟩, by rintro ⟨⟩⟩
  · rw [Fits, if_neg unlimited] at fits
    rcases fits with ⟨elapsed, ticker, running⟩
    rw [running]
    exact ⟨by rintro ⟨⟩, by rintro ⟨⟩⟩

theorem Stage.Fits.waiting_iff {stage : Stage} {config : Config} {task : SyncTask}
    (fits : stage.Fits config task) : task = .waiting ↔ stage = .unstarted := by
  cases stage with
  | unstarted => exact iff_of_true fits rfl
  | synced => exact iff_of_false fits.synced_ne.1 (by rintro ⟨⟩)
  | starting | aborted | withdrawn =>
      rw [show task = _ from fits]
      exact iff_of_false (by rintro ⟨⟩) (by rintro ⟨⟩)

theorem Stage.Fits.starting_iff {stage : Stage} {config : Config} {task : SyncTask}
    (fits : stage.Fits config task) : task = .starting ↔ stage = .starting := by
  cases stage with
  | starting => exact iff_of_true fits rfl
  | synced => exact iff_of_false fits.synced_ne.2 (by rintro ⟨⟩)
  | unstarted | aborted | withdrawn =>
      rw [show task = _ from fits]
      exact iff_of_false (by rintro ⟨⟩) (by rintro ⟨⟩)

/-! ## One step -/

theorem step_spawn_of_ne {state : Sync} (begun : state.task ≠ .waiting) :
    state.step .spawn = state := by
  simp only [step]

theorem step_firstPass_of_ne {state : Sync} (elsewhere : state.task ≠ .starting) :
    state.step .firstPass = state := by
  simp only [step]

/-- A task at a stage, and a control plane that shows it. Nothing is said of the readiness flag,
because anybody may set it. -/
structure Follows (course : Course) (config : Config) (state : Sync) : Prop where
  config_eq : state.plane.config = config
  isCancelled_eq : state.isCancelled = course.isCancelled
  fits : course.stage.Fits config state.task
  discovery_eq : state.plane.health.discovery = course.stage.discovery config
  syncs_eq_zero_iff : state.plane.counters.syncs = 0 ↔ course.stage.isSynced = false

namespace Follows

variable {course : Course} {config : Config} {state : Sync}

private theorem advance (follows : Follows course config state) (stretch : Nat) :
    Follows course config (state.advance stretch) := by
  cases synced : course.stage.isSynced with
  | false => exact (follows.fits.advance_eq synced stretch).symm ▸ follows
  | true =>
      have counted : state.plane.counters.syncs ≠ 0 := by
        rw [Ne, follows.syncs_eq_zero_iff, synced]
        exact Bool.false_ne_true.symm
      rcases state.advance_keeps stretch with ⟨sameConfig, sameHealth, syncs⟩
      refine ⟨?_, ?_, follows.fits.advance stretch, ?_, ?_⟩
      · rw [sameConfig, follows.config_eq]
      · rw [isCancelled_advance, follows.isCancelled_eq]
      · rw [sameHealth, follows.discovery_eq]
      · rw [synced]
        exact iff_of_false (by omega) Bool.false_ne_true.symm

private theorem spawn (follows : Follows course config state) :
    Follows (course.after .spawn) config (state.step .spawn) := by
  rcases course with ⟨stage, isCancelled⟩
  cases stage with
  | unstarted =>
      simp only [Sync.step, follows.fits.waiting_iff.mpr rfl]
      exact ⟨follows.config_eq, follows.isCancelled_eq, rfl, follows.discovery_eq,
        follows.syncs_eq_zero_iff⟩
  | starting | aborted | synced | withdrawn =>
      have begun : state.task ≠ .waiting := mt follows.fits.waiting_iff.mp (by rintro ⟨⟩)
      rw [step_spawn_of_ne begun]
      exact follows

private theorem firstPass (follows : Follows course config state) :
    Follows (course.after .firstPass) config (state.step .firstPass) := by
  rcases course with ⟨stage, isCancelled⟩
  cases stage with
  | starting =>
      simp only [Sync.step, follows.fits.starting_iff.mpr rfl]
      refine ⟨follows.config_eq, follows.isCancelled_eq, ?_, rfl, ?_⟩
      · simp only [Course.after, Stage.Fits, turnReady, follows.config_eq, Ticker.start]
        by_cases unlimited : config.refreshDelayMs = 0
        · simp [unlimited]
        · simp [unlimited, Nat.pos_of_ne_zero unlimited]
      · exact iff_of_false (Nat.succ_ne_zero _) Bool.false_ne_true.symm
  | unstarted | aborted | synced | withdrawn =>
      have elsewhere : state.task ≠ .starting := mt follows.fits.starting_iff.mp (by rintro ⟨⟩)
      rw [step_firstPass_of_ne elsewhere]
      exact follows

/-- A task that nobody cancelled does not end. -/
private theorem join (follows : Follows course config state) :
    Follows (course.after .join) config (state.step .join) := by
  have token := follows.isCancelled_eq
  have fits := follows.fits
  rcases course with ⟨stage, isCancelled⟩
  cases isCancelled with
  | false =>
      simp only [Sync.step, Sync.join, token]
      exact follows
  | true =>
      cases stage with
      | unstarted | aborted | withdrawn =>
          simp only [Sync.step, Sync.join, token, show state.task = _ from fits]
          exact follows
      | starting =>
          simp only [Sync.step, Sync.join, token, show state.task = _ from fits, if_true]
          exact ⟨follows.config_eq, rfl, rfl, follows.discovery_eq, follows.syncs_eq_zero_iff⟩
      | synced =>
          by_cases unlimited : config.refreshDelayMs = 0
          · rw [Stage.Fits, if_pos unlimited] at fits
            simp only [Sync.step, Sync.join, token, fits, if_true]
            refine ⟨follows.config_eq, rfl, rfl, ?_, follows.syncs_eq_zero_iff⟩
            exact follows.discovery_eq.trans (if_pos unlimited).symm
          · rw [Stage.Fits, if_neg unlimited] at fits
            rcases fits with ⟨elapsed, ticker, running⟩
            simp only [Sync.step, Sync.join, token, running, if_true]
            refine ⟨follows.config_eq, rfl, rfl, ?_, follows.syncs_eq_zero_iff⟩
            exact (if_neg unlimited).symm

/-- One step keeps a task at its stage, or takes it to the next one. -/
theorem step (follows : Follows course config state) (next : Step) :
    Follows (course.after next) config (state.step next) := by
  cases next with
  | spawn => exact follows.spawn
  | firstPass => exact follows.firstPass
  | join => exact follows.join
  | advance milliseconds => exact follows.advance milliseconds
  | cancel =>
      exact ⟨follows.config_eq, rfl, follows.fits, follows.discovery_eq, follows.syncs_eq_zero_iff⟩
  | changeFiles | setReady | request | check =>
      exact ⟨follows.config_eq, follows.isCancelled_eq, follows.fits, follows.discovery_eq,
        follows.syncs_eq_zero_iff⟩

theorem run (follows : Follows course config state) (steps : List Step) :
    Follows (steps.foldl Course.after course) config (state.run steps) := by
  induction steps generalizing course state with
  | nil => exact follows
  | cons next rest inductionHypothesis => exact inductionHypothesis (follows.step next)

end Follows

/-- Nothing has happened yet around the task of a new control plane. -/
theorem follows_ofPlane {config : Config} {plane : ControlPlane}
    (planned : ControlPlane.ofConfig config = .ok plane) (files : FileTree) :
    Follows ⟨.unstarted, false⟩ config (ofPlane plane files) := by
  have fresh := ControlPlane.ofConfig_ok planned
  have idle := ControlPlane.health_of_ofConfig planned
  refine ⟨fresh.1, rfl, rfl, ?_, ?_⟩
  · exact congrArg Health.discovery idle
  · exact iff_of_true (congrArg SyncCounters.syncs fresh.2) rfl

/-- Whatever is done around the task of a new control plane, its steps tell its stage. -/
theorem run_follows {config : Config} {plane : ControlPlane}
    (planned : ControlPlane.ofConfig config = .ok plane) (files : FileTree) (steps : List Step) :
    Follows (courseOf steps) config ((ofPlane plane files).run steps) :=
  (follows_ofPlane planned files).run steps

/-! ## The readiness flag -/

/-- Both reports say the same. -/
def Agrees (state : Sync) : Prop :=
  state.plane.health.ready = true ↔ state.plane.health.discovery = .serving

/-- A step that does not come from outside writes both reports or neither. -/
theorem Agrees.step {state : Sync} (agrees : state.Agrees) {next : Step}
    (internal : ∀ ready, next ≠ .setReady ready) : (state.step next).Agrees := by
  cases next with
  | spawn =>
      simp only [Sync.step]
      split <;> exact agrees
  | firstPass =>
      simp only [Sync.step]
      split
      · exact iff_of_true rfl rfl
      · exact agrees
  | advance milliseconds =>
      simp only [Sync.step]
      rw [Agrees, (advance_keeps _ _).2.1]
      exact agrees
  | join =>
      simp only [Sync.step, Sync.join]
      split
      · split
        · exact agrees
        · exact agrees
        · exact agrees
        · exact agrees
        · exact iff_of_false Bool.false_ne_true (by rintro ⟨⟩)
      · exact agrees
  | setReady ready => exact absurd rfl (internal ready)
  | cancel | changeFiles | request | check => exact agrees

theorem Agrees.run {state : Sync} (agrees : state.Agrees) (steps : List Step)
    (internal : ∀ ready, Step.setReady ready ∉ steps) : (state.run steps).Agrees := by
  induction steps generalizing state with
  | nil => exact agrees
  | cons next rest inductionHypothesis =>
      apply inductionHypothesis
      · apply agrees.step
        rintro ready rfl
        exact internal ready List.mem_cons_self
      · intro ready member
        exact internal ready (List.mem_cons_of_mem _ member)

/-- The two health reports of a control plane whose readiness is not set from outside.

The readiness page says yes exactly when the health service reports the discovery endpoints as
serving. Both do so from the end of the first pass on and until the end of a cancelled task is seen,
and a task that died for want of a refresh delay leaves them so, cancelled or not. A pass is counted
exactly when the first one is over, and until then neither report is positive. -/
theorem run_readiness {config : Config} {plane : ControlPlane}
    (planned : ControlPlane.ofConfig config = .ok plane) (files : FileTree) (steps : List Step)
    (internal : ∀ ready, Step.setReady ready ∉ steps) {request : PageRequest}
    (asked : request.method = "GET") (found : request.path = Page.ready.path) :
    let state := (ofPlane plane files).run steps
    let saysYes := (state.plane.answer request).status = 200
    let serves := state.plane.health.check discoveryService = .status .serving
    (saysYes ↔ serves) ∧
    (serves ↔ stageOf steps = .synced ∨
      stageOf steps = .withdrawn ∧ config.refreshDelayMs = 0) ∧
    (state.plane.counters.syncs = 0 ↔ stageOf steps ≠ .synced ∧ stageOf steps ≠ .withdrawn) ∧
    (state.plane.counters.syncs = 0 → ¬ saysYes ∧ ¬ serves) := by
  intro state saysYes serves
  have follows : Follows (courseOf steps) config state := run_follows planned files steps
  have agrees : state.Agrees := by
    apply Agrees.run _ steps internal
    rw [Agrees, ofPlane, ControlPlane.health_of_ofConfig planned]
    exact iff_of_false Bool.false_ne_true nofun
  have flag : saysYes ↔ state.plane.health.ready = true := by
    simp only [saysYes, ControlPlane.answer_get asked found, ControlPlane.content,
      PageResponse.empty]
    cases state.plane.health.ready <;> decide
  have status : serves ↔ state.plane.health.discovery = .serving := by
    simp only [serves, Health.check_discoveryService, HealthAnswer.status.injEq]
  have same : saysYes ↔ serves := flag.trans (agrees.trans status.symm)
  have stages : serves ↔ stageOf steps = .synced ∨
      stageOf steps = .withdrawn ∧ config.refreshDelayMs = 0 := by
    rw [status, follows.discovery_eq, stageOf]
    cases (courseOf steps).stage <;> simp [Stage.discovery]
  have counted : state.plane.counters.syncs = 0 ↔
      stageOf steps ≠ .synced ∧ stageOf steps ≠ .withdrawn := by
    rw [follows.syncs_eq_zero_iff, stageOf]
    cases (courseOf steps).stage <;> simp [Stage.isSynced]
  refine ⟨same, stages, counted, ?_⟩
  intro uncounted
  rcases counted.mp uncounted with ⟨unsynced, unwithdrawn⟩
  have unserved : ¬ serves := fun served => (stages.mp served).elim unsynced fun ⟨withdrawn, _⟩ =>
    unwithdrawn withdrawn
  exact ⟨mt same.mp unserved, unserved⟩

/-- A task without a refresh delay dies after its first pass, and is cancelled afterwards. Both
reports stay positive. -/
theorem run_readiness_crashed :
    let steps : List Step := [.spawn, .firstPass, .cancel, .join]
    ∃ plane, ControlPlane.ofConfig { watchful with refreshDelayMs := 0 } = .ok plane ∧
      (((ofPlane plane watched).run steps).plane.answer ⟨"GET", "/ready", ""⟩).status = 200 ∧
      ((ofPlane plane watched).run steps).plane.health.check discoveryService =
        .status .serving := by
  intro steps
  have plannable :
      ∃ plane, ControlPlane.ofConfig { watchful with refreshDelayMs := 0 } = .ok plane := ⟨_, rfl⟩
  rcases plannable with ⟨plane, planned⟩
  have found : PageRequest.path ⟨"GET", "/ready", ""⟩ = Page.ready.path := by decide +kernel
  rcases run_readiness planned watched steps (by simp [steps]) rfl found with ⟨same, stages, _⟩
  have serves := stages.mpr (.inr ⟨by decide, rfl⟩)
  exact ⟨plane, planned, same.mpr serves, serves⟩

end MeshControl.Sync
