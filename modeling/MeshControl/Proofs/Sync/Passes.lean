import MeshControl.Sync

/-!
What a sync task has counted at any moment of its life.

The counters depend on the whole history of the files, but only through the moments at which the
ticker goes off. The history is therefore taken apart first: what the files look like at each
moment is read off the steps alone, without looking at the task. The task is then compared with
that history pass by pass. One pass keeps the comparison, so the passes of any stretch of time do,
however the time is cut into steps. The comparison begins with the first pass. Until then nothing is
counted, however long that takes.

Main statement: `run_counters`.
-/

namespace MeshControl

/-! ## The history of the files -/

namespace Sync

/-- How much time a step takes once the task runs, in milliseconds. -/
def Step.duration : Step → Nat
  | .advance milliseconds => milliseconds
  | .spawn | .firstPass | .cancel | .join | .changeFiles _ | .setReady _ | .request _
  | .check _ => 0

def Step.filesAfter (files : FileTree) : Step → FileTree
  | .changeFiles changes => changes.foldl FileTree.apply files
  | .spawn | .firstPass | .advance _ | .cancel | .join | .setReady _ | .request _
  | .check _ => files

def duration : List Step → Nat
  | [] => 0
  | next :: rest => next.duration + duration rest

/-- The files at the moment at which the clock reaches a time, if it has got so far and the steps
are still to come. A change counts only once the clock has moved on. -/
def filesAt (files : FileTree) (elapsed : Nat) : List Step → Nat → FileTree
  | [], _ => files
  | next :: rest, time =>
    if time ≤ elapsed + next.duration then files
    else filesAt (next.filesAfter files) (elapsed + next.duration) rest time

theorem filesAt_now (files : FileTree) (elapsed : Nat) (steps : List Step) :
    filesAt files elapsed steps elapsed = files := by
  cases steps with
  | nil => rfl
  | cons next rest => exact if_pos (Nat.le_add_right _ _)

end Sync

/-! ## What passes find -/

/-- The number of configuration files that a pass finds, if a directory is configured and can be
read. -/
def Config.found (config : Config) (files : FileTree) : Option Nat :=
  config.configDir.bind fun directory => (files.scan directory).toOption

/-- What the latest of so many passes found that found anything; zero if none did. -/
def lastFound (found : Nat → Option Nat) (passes : Nat) : Nat :=
  ((List.range passes).reverse.findSome? found).getD 0

@[simp]
theorem lastFound_zero (found : Nat → Option Nat) : lastFound found 0 = 0 := rfl

/-- One more pass either finds something or leaves it at what was found before. -/
theorem lastFound_succ (found : Nat → Option Nat) (passes : Nat) :
    lastFound found (passes + 1) = (found passes).getD (lastFound found passes) := by
  unfold lastFound
  rw [List.range_succ, List.reverse_append, List.reverse_singleton, List.singleton_append,
    List.findSome?_cons]
  cases found passes <;> rfl

/-- Without a directory nothing is ever found. -/
theorem lastFound_of_noDirectory {config : Config} (missing : config.configDir = none)
    (history : Nat → FileTree) (passes : Nat) :
    lastFound (fun number => config.found (history number)) passes = 0 := by
  induction passes with
  | zero => rfl
  | succ passes inductionHypothesis =>
      rw [lastFound_succ, inductionHypothesis]
      simp [Config.found, missing]

namespace Sync

/-! ## One pass -/

/-- A task that made so many passes, one each period, and a control plane that shows what they
found. The files that a pass saw are those that the history has at its time. -/
structure Kept (config : Config) (history : Nat → FileTree) (passes : Nat) (ticker : Ticker)
    (plane : ControlPlane) : Prop where
  config_eq : plane.config = config
  period_eq : ticker.period = config.refreshDelayMs
  due_eq : ticker.due = passes * config.refreshDelayMs
  counters_eq : plane.counters = ⟨passes,
    lastFound (fun number => config.found (history (number * config.refreshDelayMs))) passes⟩

/-- What one pass reports, by what it found. -/
theorem countResources_eq {config : Config} {history : Nat → FileTree} {passes : Nat}
    {plane : ControlPlane} (configured : plane.config = config)
    (resources : plane.counters.resources =
      lastFound (fun number => config.found (history number)) passes) (files : FileTree) :
    plane.countResources files = (config.found files).getD plane.counters.resources := by
  unfold ControlPlane.countResources
  rw [configured]
  cases directory : config.configDir with
  | none =>
      rw [resources, lastFound_of_noDirectory directory]
      simp [Config.found, directory]
  | some path =>
      simp only [Config.found, directory, Option.bind_some]
      cases files.scan path <;> rfl

/-- The pass that is due keeps the comparison with the history. -/
theorem Kept.pass {config : Config} {history : Nat → FileTree} {passes : Nat} {ticker : Ticker}
    {plane : ControlPlane} (kept : Kept config history passes ticker plane) :
    Kept config history (passes + 1) ticker.strike (plane.pass (history ticker.due)) where
  config_eq := kept.config_eq
  period_eq := kept.period_eq
  due_eq := by rw [Ticker.due_strike, kept.due_eq, kept.period_eq, Nat.succ_mul]
  counters_eq := by
    have resources := congrArg SyncCounters.resources kept.counters_eq
    have reported := countResources_eq kept.config_eq resources (history ticker.due)
    simp only [ControlPlane.pass, reported]
    rw [kept.counters_eq, lastFound_succ, kept.due_eq]

/-! ## All passes of a stretch of time -/

/-- Passes are made until the next one lies ahead, so that their number is known from the time
alone. The files do not change meanwhile. -/
theorem Kept.catchUp {config : Config} {history : Nat → FileTree} {files : FileTree} {now : Nat}
    {ticker : Ticker} {plane : ControlPlane} {passes : Nat}
    (kept : Kept config history passes ticker plane)
    (reached : passes ≤ now / config.refreshDelayMs + 1)
    (current : ∀ time, ticker.due ≤ time → time ≤ now → history time = files) :
    Kept config history (now / config.refreshDelayMs + 1) (catchUp files now ticker plane).1
      (catchUp files now ticker plane).2 := by
  have positive : 0 < config.refreshDelayMs := kept.period_eq ▸ ticker.period_pos
  fun_induction Sync.catchUp files now ticker plane generalizing passes with
  | case1 ticker plane due inductionHypothesis =>
      have dueNow := current ticker.due (Nat.le_refl _) due
      have notBefore := ticker.due_lt_due_strike
      apply inductionHypothesis (dueNow ▸ kept.pass)
      · rw [kept.due_eq] at due
        have := (Nat.le_div_iff_mul_le positive).mpr due
        omega
      · intro time later
        exact current time (by omega)
  | case2 ticker plane ahead =>
      rw [kept.due_eq, ← Nat.le_div_iff_mul_le positive] at ahead
      have settled : passes = now / config.refreshDelayMs + 1 := by omega
      exact settled ▸ kept

/-! ## Steps and the files -/

theorem run_append (state : Sync) (steps later : List Step) :
    state.run (steps ++ later) = (state.run steps).run later :=
  List.foldl_append

theorem files_advance (state : Sync) (stretch : Nat) :
    (state.advance stretch).files = state.files := by
  unfold advance
  split <;> rfl

/-- What a step does to the files does not depend on the task. -/
theorem files_step (state : Sync) (next : Step) :
    (state.step next).files = next.filesAfter state.files := by
  cases next with
  | spawn | firstPass =>
      simp only [step]
      split <;> rfl
  | advance milliseconds => exact files_advance _ _
  | join =>
      simp only [step, join]
      split
      · split <;> rfl
      · rfl
  | cancel | changeFiles | setReady | request | check => rfl

theorem files_run (state : Sync) (steps : List Step) :
    (state.run steps).files = steps.foldl Step.filesAfter state.files := by
  induction steps generalizing state with
  | nil => rfl
  | cons next rest inductionHypothesis =>
      have later := inductionHypothesis (state.step next)
      rw [files_step] at later
      exact later

/-! ## Before the first pass -/

/-- A task that nobody cancelled, and that has counted nothing so far. -/
structure Idle (config : Config) (task : SyncTask) (state : Sync) : Prop where
  task_eq : state.task = task
  uncancelled : state.isCancelled = false
  config_eq : state.plane.config = config
  counters_eq : state.plane.counters = .zero

/-- Nothing is counted while a task waits for its start, nor while its first pass is under way. -/
theorem Idle.step {config : Config} {task : SyncTask} {state : Sync} (idle : Idle config task state)
    {next : Step} (uncancelled : next ≠ .cancel)
    (stays : task = .waiting ∧ next ≠ .spawn ∨ task = .starting ∧ next ≠ .firstPass) :
    Idle config task (state.step next) := by
  have unmoved : (state.step next).task = state.task ∧
      (state.step next).isCancelled = state.isCancelled ∧
      (state.step next).plane.config = state.plane.config ∧
      (state.step next).plane.counters = state.plane.counters := by
    cases next with
    | cancel => exact absurd rfl uncancelled
    | changeFiles | setReady | request | check => exact ⟨rfl, rfl, rfl, rfl⟩
    | spawn =>
        rcases stays with ⟨_, unspawned⟩ | ⟨rfl, _⟩
        · exact absurd rfl unspawned
        · simp [Sync.step, idle.task_eq]
    | firstPass =>
        rcases stays with ⟨rfl, _⟩ | ⟨_, unpassed⟩
        · simp [Sync.step, idle.task_eq]
        · exact absurd rfl unpassed
    | advance milliseconds =>
        rcases stays with ⟨rfl, _⟩ | ⟨rfl, _⟩ <;> simp [Sync.step, advance, idle.task_eq]
    | join => simp [Sync.step, join, idle.uncancelled]
  rcases unmoved with ⟨sameTask, sameToken, sameConfig, sameCounters⟩
  exact ⟨sameTask.trans idle.task_eq, sameToken.trans idle.uncancelled,
    sameConfig.trans idle.config_eq, sameCounters.trans idle.counters_eq⟩

theorem Idle.run {config : Config} {task : SyncTask} {state : Sync} (idle : Idle config task state)
    {steps : List Step} (uncancelled : Step.cancel ∉ steps)
    (stays : task = .waiting ∧ Step.spawn ∉ steps ∨ task = .starting ∧ Step.firstPass ∉ steps) :
    Idle config task (state.run steps) := by
  induction steps generalizing state with
  | nil => exact idle
  | cons next rest inductionHypothesis =>
      simp only [List.mem_cons, not_or] at uncancelled stays
      apply inductionHypothesis _ uncancelled.2 (stays.imp (And.imp_right And.right)
        (And.imp_right And.right))
      exact idle.step (Ne.symm uncancelled.1) (stays.imp
        (And.imp_right fun unspawned => Ne.symm unspawned.1)
        (And.imp_right fun unpassed => Ne.symm unpassed.1))

theorem Idle.spawn {config : Config} {state : Sync} (idle : Idle config .waiting state) :
    Idle config .starting (state.step .spawn) := by
  simp only [Sync.step, idle.task_eq]
  exact ⟨rfl, idle.uncancelled, idle.config_eq, idle.counters_eq⟩

/-- A task is idle before its start, and still is after it until the first pass is over. -/
theorem idle_run {config : Config} {plane : ControlPlane}
    (planned : ControlPlane.ofConfig config = .ok plane) (files : FileTree)
    {before between : List Step} (unspawned : Step.spawn ∉ before)
    (unpassed : Step.firstPass ∉ between) (uncancelled : Step.cancel ∉ before ++ between) :
    Idle config .starting ((ofPlane plane files).run (before ++ .spawn :: between)) := by
  rw [List.mem_append, not_or] at uncancelled
  have fresh := ControlPlane.ofConfig_ok planned
  have new : Idle config .waiting (ofPlane plane files) := ⟨rfl, rfl, fresh.1, fresh.2⟩
  have waiting := new.run uncancelled.1 (.inl ⟨rfl, unspawned⟩)
  rw [run_append]
  exact waiting.spawn.run uncancelled.2 (.inr ⟨rfl, unpassed⟩)

/-! ## A whole run -/

/-- A task that nobody cancelled, that runs for some time since its first pass, and that made all
passes that fell into it. -/
structure Running (config : Config) (history : Nat → FileTree) (elapsed : Nat) (state : Sync) :
    Prop where
  uncancelled : state.isCancelled = false
  kept : ∃ ticker, state.task = .running elapsed ticker ∧
    Kept config history (elapsed / config.refreshDelayMs + 1) ticker state.plane

/-- One step keeps a task in time, if the history tells what the files were meanwhile. -/
theorem Running.step {config : Config} {history : Nat → FileTree} {elapsed : Nat} {state : Sync}
    (running : Running config history elapsed state) (next : Step) (uncancelled : next ≠ .cancel)
    (current : ∀ time, elapsed < time → time ≤ elapsed + next.duration →
      history time = state.files) :
    Running config history (elapsed + next.duration) (state.step next) := by
  rcases running with ⟨live, ticker, task, kept⟩
  cases next with
  | advance milliseconds =>
      have positive : 0 < config.refreshDelayMs := kept.period_eq ▸ ticker.period_pos
      have ahead : elapsed < ticker.due := by
        rw [kept.due_eq, Nat.succ_mul]
        exact Nat.lt_div_mul_add positive
      have caughtUp : Kept config history ((elapsed + milliseconds) / config.refreshDelayMs + 1)
          (catchUp state.files (elapsed + milliseconds) ticker state.plane).1
          (catchUp state.files (elapsed + milliseconds) ticker state.plane).2 := kept.catchUp
        (Nat.succ_le_succ (Nat.div_le_div_right (Nat.le_add_right _ _)))
        (fun time due => current time (Nat.lt_of_lt_of_le ahead due))
      simp only [Sync.step, advance, task]
      exact ⟨live, _, rfl, caughtUp⟩
  | spawn | firstPass =>
      simp only [Sync.step, task]
      exact ⟨live, ticker, task, kept⟩
  | join =>
      have unnoticed : state.join = state := by
        rw [join, live, if_neg Bool.false_ne_true]
      simp only [Sync.step, unnoticed]
      exact ⟨live, ticker, task, kept⟩
  | cancel => exact absurd rfl uncancelled
  | changeFiles changes => exact ⟨live, ticker, task, kept⟩
  | setReady ready =>
      exact ⟨live, ticker, task, kept.config_eq, kept.period_eq, kept.due_eq, kept.counters_eq⟩
  | request | check => exact ⟨live, ticker, task, kept⟩

theorem Running.run {config : Config} {history : Nat → FileTree} {elapsed : Nat} {state : Sync}
    (running : Running config history elapsed state) (steps : List Step)
    (uncancelled : Step.cancel ∉ steps)
    (told : ∀ time, elapsed < time → history time = filesAt state.files elapsed steps time) :
    Running config history (elapsed + duration steps) (state.run steps) := by
  induction steps generalizing elapsed state with
  | nil => exact running
  | cons next rest inductionHypothesis =>
      rw [List.mem_cons, not_or] at uncancelled
      have stepped := running.step next (Ne.symm uncancelled.1) (by
        intro time later within
        rw [told time later, filesAt, if_pos within])
      have total : elapsed + duration (next :: rest) =
          elapsed + next.duration + duration rest := by
        simp [duration, Nat.add_assoc]
      rw [total]
      apply inductionHypothesis stepped uncancelled.2
      intro time later
      rw [told time (by omega), filesAt, if_neg (by omega), files_step]

/-- The end of the first pass is where the time of the others is counted from. -/
theorem Running.firstPass {config : Config} {history : Nat → FileTree} {state : Sync}
    (idle : Idle config .starting state) (periodic : 0 < config.refreshDelayMs)
    (current : history 0 = state.files) : Running config history 0 (state.step .firstPass) := by
  have started : Ticker.start 0 config.refreshDelayMs =
      some ⟨config.refreshDelayMs, 0, periodic⟩ := dif_pos periodic
  have none : Kept config history 0 ⟨config.refreshDelayMs, 0, periodic⟩ state.plane :=
    ⟨idle.config_eq, rfl, by simp, idle.counters_eq⟩
  have first := none.pass
  rw [current] at first
  simp only [Sync.step, idle.task_eq, turnReady, idle.config_eq, started]
  refine ⟨idle.uncancelled, _, rfl, ?_⟩
  rw [Nat.zero_div]
  exact ⟨first.config_eq, first.period_eq, first.due_eq, first.counters_eq⟩

/-- What a sync task has counted, at any moment after it was started and before it is cancelled.

While its first pass is under way, nothing is counted. After that there was this one pass, and one
after each full period since; if the first pass takes no time, that is since the start. The number of
resources is what the latest pass found that could read the directory, in the files as they stood
when its time came. -/
theorem run_counters {config : Config} {plane : ControlPlane}
    (planned : ControlPlane.ofConfig config = .ok plane) (periodic : 0 < config.refreshDelayMs)
    (files : FileTree) (before between after : List Step) (unspawned : Step.spawn ∉ before)
    (unpassed : Step.firstPass ∉ between) (uncancelled : Step.cancel ∉ before ++ between ++ after) :
    let elapsed := duration after
    let passes := 1 + elapsed / config.refreshDelayMs
    let history := filesAt ((before ++ between).foldl Step.filesAfter files) 0 after
    let found := fun number => config.found (history (number * config.refreshDelayMs))
    ((ofPlane plane files).run (before ++ .spawn :: between)).plane.counters = .zero ∧
      ((ofPlane plane files).run (before ++ .spawn :: between ++ .firstPass :: after)).plane.counters
        = ⟨passes, lastFound found passes⟩ := by
  intro elapsed passes history found
  rw [List.mem_append, not_or] at uncancelled
  have idle := idle_run planned files unspawned unpassed uncancelled.1
  let early := (ofPlane plane files).run (before ++ .spawn :: between)
  have filesThen : early.files = (before ++ between).foldl Step.filesAfter files := by
    simp only [early, files_run, List.foldl_append, List.foldl_cons]
    rfl
  have passed : Running config history 0 (early.step .firstPass) :=
    Running.firstPass idle periodic ((filesAt_now _ _ _).trans filesThen.symm)
  have ran := passed.run after uncancelled.2 (by
    intro time _
    simp only [history, ← filesThen]
    rw [files_step]
    rfl)
  rw [Nat.zero_add] at ran
  rcases ran.kept with ⟨ticker, _, kept⟩
  have taken : (ofPlane plane files).run (before ++ .spawn :: between ++ .firstPass :: after) =
      (early.step .firstPass).run after := run_append _ _ _
  rw [taken, kept.counters_eq, Nat.add_comm _ 1]
  exact ⟨idle.counters_eq, rfl⟩

/-- A configuration with a directory that is looked at every ten milliseconds. -/
def watchful : Config :=
  ⟨"default", ⟨"127.0.0.1:0", "127.0.0.1:0", "127.0.0.1:0"⟩, some "/conf", "/certs", ["Mock"], 10,
    4096⟩

/-- The directory, with one configuration file in it. -/
def watched : FileTree :=
  ⟨.directory [(.ofText "conf".toList, .directory [(.ofText "a.yaml".toList, .file .other)])], []⟩

/-- The first pass takes seven milliseconds, and the directory is removed after the fourth. The two
passes that follow count as passes, and keep the number that was found before. -/
theorem run_counters_removed :
    let after := [.advance 30, .changeFiles [.remove [.ofText "conf".toList]], .advance 20]
    ∃ plane, ControlPlane.ofConfig watchful = .ok plane ∧
      ((ofPlane plane watched).run
        ([.setReady true] ++ .spawn :: [.advance 7] ++ .firstPass :: after)).plane.counters =
          ⟨6, 1⟩ := by
  intro after
  have plannable : ∃ plane, ControlPlane.ofConfig watchful = .ok plane := ⟨_, rfl⟩
  rcases plannable with ⟨plane, planned⟩
  have counted := run_counters planned (by decide) watched [.setReady true] [.advance 7] after
    (by simp) (by simp) (by simp [after])
  exact ⟨plane, planned, counted.2.trans (by decide)⟩

end Sync

end MeshControl
