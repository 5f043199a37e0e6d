import Mathlib.Data.List.Induction
import MeshControl.Harness.ProcessWide
import MeshControl.Harness.TestControlPlane

/-!
What callers of the shared harness are told.

There are two ways to ask for the shared server. One of them is meant to report whatever goes wrong
and the other one to bring its caller down. They differ by one function at the very end, so that
what is left is to tell where this function makes a difference. It makes none before the harness is
there: as long as no call has found settings that can be read, either way brings the caller down,
and nothing is kept. Afterwards the first way reports an error exactly where the second one brings
its caller down. An attempt brings down its caller only on the way to a thread, through the test
configuration or an override, and the test configuration of a control plane never does.

Main statement: `tryEnsure_reports`.
-/

namespace MeshControl.Harness

variable {Configuration Instance : Type}

/-! ## Attempts -/

theorem launch_not_panicked (circumstances : Circumstances Configuration Instance)
    (poller : Poller) (probePath : String) (applied : Nat) (configuration : Configuration)
    (text : String) :
    (launch circumstances poller probePath applied configuration).outcome ≠ .panicked text := by
  intro panicked
  have orderly := launch_orderly circumstances poller probePath applied configuration
  have launched : (launch circumstances poller probePath applied configuration).launched = true := by
    unfold launch
    repeat' split
    all_goals rfl
  rw [orderly.not_launched_of_panicked text panicked] at launched
  cases launched

/-- Overrides that work on every configuration. -/
def Harmless (overrides : List (Override Configuration)) : Prop :=
  ∀ change ∈ overrides, ∀ before, ∃ after, change before = .ok after

theorem Harmless.applyOverrides {overrides : List (Override Configuration)}
    (harmless : Harmless overrides) (base : Configuration) :
    ∃ configuration, applyOverrides overrides base = (overrides.length, .ok configuration) := by
  induction overrides generalizing base with
  | nil => exact ⟨base, rfl⟩
  | cons change rest ih =>
      rcases List.forall_mem_cons.mp harmless with ⟨works, others⟩
      rcases works base with ⟨next, changed⟩
      rcases ih others next with ⟨configuration, applied⟩
      exact ⟨configuration, by simp only [Harness.applyOverrides, changed, applied, List.length_cons]⟩

theorem attempt_not_panicked {settings : Settings}
    {circumstances : Circumstances Configuration Instance}
    {overrides : List (Override Configuration)} (harmless : Harmless overrides)
    (lives : ∀ listen text, circumstances.managed.testConfiguration listen ≠ .died text)
    (text : String) : (attempt settings circumstances overrides).outcome ≠ .panicked text := by
  unfold attempt
  cases circumstances.noWorkDir with
  | some cause => nofun
  | none =>
      cases tested : circumstances.managed.testConfiguration settings.listenAddresses with
      | died last => exact absurd tested (lives _ last)
      | refused reason => nofun
      | done base =>
          rcases harmless.applyOverrides base with ⟨configuration, applied⟩
          simp only [applied]
          cases Poller.ofSettings settings with
          | error fault => nofun
          | ok poller =>
              cases circumstances.noClient with
              | some reason => nofun
              | none =>
                  cases circumstances.noThread with
                  | some cause => nofun
                  | none => exact launch_not_panicked circumstances poller _ _ configuration text

/-- A call that finds a running server has no use for an attempt. -/
theorem ensureRunning_not_panicked {harness : Harness Instance}
    {circumstances : Circumstances Configuration Instance}
    {overrides : List (Override Configuration)}
    (lives : ∀ settings text, (attempt settings circumstances overrides).outcome ≠ .panicked text)
    (text : String) : (harness.ensureRunning circumstances overrides).1 ≠ .panicked text := by
  unfold ensureRunning
  split
  · nofun
  · unfold bringUp
    simp only
    split
    · nofun
    · nofun
    · rename_i last panicked
      exact absurd panicked (lives _ last)

theorem TestSite.testConfiguration_ne_died (site : TestSite) (listen : PerListener String)
    (text : String) : site.controlPlane.testConfiguration listen ≠ .died text := by
  simp only [controlPlane]
  cases site.configuration listen with
  | error error => nofun
  | ok config => nofun

namespace ProcessWide

/-! ## The first use -/

/-- The variables have settings that can be read. -/
def Readable (environment : Variables) : Prop :=
  ∃ settings, Settings.ofVariables environment = .ok settings

/-- The variables that a step finds, if it looks at them. -/
def Step.environment? : Step Configuration Instance → Option Variables
  | .touch environment => some environment
  | .tryEnsure environment _ _ => some environment
  | .ensure environment _ _ => some environment
  | .release _ | .signal _ => none

theorem obtain_cases (process : ProcessWide Instance) (environment : Variables) :
    (∃ harness, process.obtain? environment = .ok harness ∧
      (process.harness.isSome = true ∨ Readable environment)) ∨
    ∃ error, process.harness = none ∧ Settings.ofVariables environment = .error error ∧
      process.obtain? environment =
        .error ("Invalid control plane harness settings: " ++ error.message) := by
  unfold obtain?
  cases process.harness with
  | some harness => exact .inl ⟨harness, rfl, .inl rfl⟩
  | none =>
      cases read : Settings.ofVariables environment with
      | ok settings => exact .inl ⟨.new settings, rfl, .inr ⟨settings, read⟩⟩
      | error error => exact .inr ⟨error, rfl, rfl, rfl⟩

/-- Whoever asks for the harness leaves it there, or finds nothing and leaves nothing. -/
theorem isSome_of_obtained {process after : ProcessWide Instance} {environment : Variables}
    (made : ∀ harness, process.obtain? environment = .ok harness → after.harness.isSome = true)
    (unmade : ∀ text, process.obtain? environment = .error text → after = process) :
    after.harness.isSome = true ↔ process.harness.isSome = true ∨ Readable environment := by
  rcases process.obtain_cases environment with
    ⟨harness, obtained, reason⟩ | ⟨error, absent, unread, obtained⟩
  · exact iff_of_true (made harness obtained) reason
  · rw [unmade _ obtained, absent]
    refine iff_of_false nofun ?_
    rintro (present | ⟨settings, read⟩)
    · cases present
    · cases unread.symm.trans read

/-- A step makes the harness if it finds settings that can be read, and never takes it away. -/
theorem isSome_step (process : ProcessWide Instance) (step : Step Configuration Instance) :
    (process.step step).harness.isSome = true ↔ process.harness.isSome = true ∨
      ∃ environment, step.environment? = some environment ∧ Readable environment := by
  cases step with
  | touch environment =>
      simp only [Step.environment?, Option.some.injEq, exists_eq_left']
      apply isSome_of_obtained <;> intro _ obtained <;> simp only [step, touch, obtained]
      rfl
  | tryEnsure environment circumstances overrides =>
      simp only [Step.environment?, Option.some.injEq, exists_eq_left']
      apply isSome_of_obtained <;> intro _ obtained <;> simp only [step, tryEnsure, obtained]
      rfl
  | ensure environment circumstances overrides =>
      simp only [Step.environment?, Option.some.injEq, exists_eq_left']
      apply isSome_of_obtained <;> intro _ obtained <;> simp only [step, ensure, tryEnsure, obtained]
      rfl
  | release closer => simp [step, Step.environment?]
  | signal closer => simp [step, Step.environment?]

theorem run_concat (process : ProcessWide Instance) (steps : List (Step Configuration Instance))
    (last : Step Configuration Instance) :
    process.run (steps ++ [last]) = (process.run steps).step last :=
  List.foldl_append

theorem isSome_run (steps : List (Step Configuration Instance)) :
    ((initial : ProcessWide Instance).run steps).harness.isSome = true ↔
      ∃ step ∈ steps, ∃ environment, step.environment? = some environment ∧
        Readable environment := by
  induction steps using List.reverseRecOn with
  | nil => simp [run, initial]
  | append_singleton steps last ih =>
      rw [run_concat, isSome_step, ih]
      simp only [List.mem_append, List.mem_singleton, or_and_right, exists_or, exists_eq_left]

/-! ## Reports -/

/-- What is insisted on is the same outcome, but for an error. -/
theorem insist_panicked_iff {α : Type} {outcome : Outcome α}
    (unpanicked : ∀ text, outcome ≠ .panicked text) {text : String} :
    insist outcome = .panicked text ↔ ∃ error, outcome = .failed error ∧
      text = "Failed to start in-process control plane: " ++ error.message := by
  cases outcome with
  | done value => simp [insist]
  | failed error => simp [insist, eq_comm]
  | panicked last => exact absurd rfl (unpanicked last)

/-- Whoever tries to get the shared server is brought down only as long as nobody has found
settings that can be read; the same then happens to whoever insists, and nothing is kept. Afterwards
an error is reported exactly where whoever insists would be brought down, with that error. -/
theorem tryEnsure_reports (steps : List (Step Config Server)) (environment : Variables)
    (site : TestSite) (noWorkDir noThread noRuntime : Option SystemError)
    (noClient : Option String) {overrides : List (Override Config)}
    (harmless : Harmless overrides) :
    let process := (initial : ProcessWide Server).run steps
    let circumstances : Circumstances Config Server :=
      ⟨site.controlPlane, noWorkDir, noClient, noThread, noRuntime⟩
    let tried := process.tryEnsure environment circumstances overrides
    let ensured := process.ensure environment circumstances overrides
    let settled := Readable environment ∨ ∃ step ∈ steps, ∃ environment,
      step.environment? = some environment ∧ Readable environment
    (settled →
      (∀ text, tried.1 ≠ .panicked text) ∧
      (∀ text, ensured.1 = .panicked text ↔ ∃ error, tried.1 = .failed error ∧
        text = "Failed to start in-process control plane: " ++ error.message) ∧
      ensured.2 = tried.2) ∧
    (¬ settled → ∃ error, Settings.ofVariables environment = .error error ∧
      tried = (.panicked ("Invalid control plane harness settings: " ++ error.message), process) ∧
      ensured = tried) := by
  intro process circumstances tried ensured settled
  have made : process.harness.isSome = true ∨ Readable environment ↔ settled := by
    rw [isSome_run, or_comm]
  rcases process.obtain_cases environment with
    ⟨harness, obtained, reason⟩ | ⟨error, absent, unread, obtained⟩
  -- With a harness, the two ways differ by what is insisted on; without one, by nothing.
  · have lives (settings : Settings) (text : String) :
        (attempt settings circumstances overrides).outcome ≠ .panicked text :=
      attempt_not_panicked harmless site.testConfiguration_ne_died text
    have asked : tried = ((harness.ensureRunning circumstances overrides).1,
        ⟨some (harness.ensureRunning circumstances overrides).2⟩) := by
      simp only [tried, tryEnsure, obtained]
    have unpanicked (text : String) : tried.1 ≠ .panicked text := by
      rw [asked]
      exact ensureRunning_not_panicked lives text
    refine ⟨fun _ => ⟨unpanicked, fun _ => insist_panicked_iff unpanicked, rfl⟩, ?_⟩
    intro unsettled
    exact absurd (made.mp reason) unsettled
  · have asked : tried =
        (.panicked ("Invalid control plane harness settings: " ++ error.message), process) := by
      simp only [tried, tryEnsure, obtained]
    refine ⟨?_, fun _ => ⟨error, unread, asked, ?_⟩⟩
    · intro isSettled
      rcases made.mpr isSettled with present | ⟨settings, read⟩
      · rw [absent] at present
        cases present
      · cases unread.symm.trans read
    · have insisted : ensured = (insist tried.1, tried.2) := rfl
      rw [insisted, asked]
      rfl

/-- A machine with an empty file system, and nobody else on it. -/
def quietSite : TestSite where
  surroundings := ⟨⟨.directory [], []⟩, ⟨true, []⟩, ⟨1, 2, 3⟩, .ofFn fun _ => none⟩
  workDir := "work"

/-- The name of a service where there has to be the number of a port. -/
def misnamed : Variables := fun name =>
  if name = httpPortKey then some "http" else none

/-- A first call that finds a bad port keeps nothing, so that a second one is not brought down. -/
theorem tryEnsure_reports_recovered :
    let circumstances : Circumstances Config Server := { managed := quietSite.controlPlane }
    let rename : Override Config := fun config => .ok { config with namespaceName := "other" }
    let process := (initial : ProcessWide Server).run [.tryEnsure misnamed circumstances [rename]]
    Harmless [rename] ∧
      ∀ text, (process.tryEnsure (fun _ => none) circumstances [rename]).1 ≠ .panicked text := by
  intro circumstances rename process
  have harmless : Harmless [rename] :=
    List.forall_mem_singleton.mpr fun before => ⟨_, rfl⟩
  have readable : Readable fun _ => none := ⟨.default, rfl⟩
  have reports := tryEnsure_reports [.tryEnsure misnamed circumstances [rename]] (fun _ => none)
    quietSite none none none none harmless
  exact ⟨harmless, (reports.1 (.inl readable)).1⟩

/-- The fault of the settings is not reported. It brings the caller down. -/
theorem tryEnsure_panics_misnamed :
    ((initial : ProcessWide Server).tryEnsure misnamed { managed := quietSite.controlPlane } []).1 =
      .panicked ("Invalid control plane harness settings: Configuration error: " ++
        "CONTROL_PLANE_HTTP_PORT=\"http\" is not a valid port") := by
  rfl

end ProcessWide

end MeshControl.Harness
