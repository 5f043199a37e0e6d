import MeshControl.Harness.TestControlPlane
import MeshControl.Proofs.Server.FirstFault

/-!
What an attempt does with the overrides of its caller.

Overrides are applied on the way to a server, between stages that have nothing to do with them. Here
they are taken out of the attempt: as a function of the test configuration, which may fail, and of
which a field remembers the last write only. Construction is described for itself as well, by what
it takes and without the order of the stages, so that it can be told from the outside which calls
get through it.

Main statement: `attempt_done`.
-/

namespace MeshControl.Harness

variable {Configuration Instance : Type}

/-! ## Overrides -/

/-- One override after the other, each on what the one before has made. -/
def overridden (overrides : List (Override Configuration)) (base : Configuration) :
    Except String Configuration :=
  overrides.foldlM (fun configuration change => change configuration) base

theorem overridden_cons (change : Override Configuration) (rest : List (Override Configuration))
    (base : Configuration) :
    overridden (change :: rest) base = (change base).bind (overridden rest) := by
  rw [overridden, List.foldlM_cons]
  rfl

theorem overridden_cons_ok {change : Override Configuration}
    {rest : List (Override Configuration)} {base configuration : Configuration} :
    overridden (change :: rest) base = .ok configuration ↔
      ∃ next, change base = .ok next ∧ overridden rest next = .ok configuration := by
  rw [overridden_cons]
  cases change base with
  | error text => simp [Except.bind]
  | ok next => simp [Except.bind]

/-- Overrides are begun in order, and all of them if none fails. -/
theorem applyOverrides_cases (overrides : List (Override Configuration)) (base : Configuration) :
    (∃ count text, overridden overrides base = .error text ∧
      applyOverrides overrides base = (count, .error text)) ∨
    ∃ configuration, overridden overrides base = .ok configuration ∧
      applyOverrides overrides base = (overrides.length, .ok configuration) := by
  induction overrides generalizing base with
  | nil => exact .inr ⟨base, rfl, rfl⟩
  | cons change rest inductionHypothesis =>
      rw [overridden_cons, applyOverrides]
      cases change base with
      | error text => exact .inl ⟨1, text, rfl, rfl⟩
      | ok next =>
          rcases inductionHypothesis next with ⟨count, text, failed, begun⟩ |
            ⟨configuration, applied, begun⟩
          · exact .inl ⟨count + 1, text, failed, by simp only [begun]⟩
          · exact .inr ⟨configuration, applied, by simp only [begun, List.length_cons]⟩

/-- What no override touches stays as it is. -/
theorem overridden_keeps {Field : Type} {field : Configuration → Field}
    {overrides : List (Override Configuration)}
    (leaves : ∀ change ∈ overrides, ∀ before after,
      change before = .ok after → field after = field before)
    {base configuration : Configuration} (applied : overridden overrides base = .ok configuration) :
    field configuration = field base := by
  induction overrides generalizing base with
  | nil =>
      cases applied
      rfl
  | cons change rest inductionHypothesis =>
      rcases overridden_cons_ok.mp applied with ⟨next, changed, others⟩
      have later := inductionHypothesis
        (fun other member => leaves other (List.mem_cons_of_mem change member)) others
      exact later.trans (leaves change List.mem_cons_self base next changed)

/-- The last override that writes a field decides what is in it. -/
theorem overridden_last_write {Field : Type} {field : Configuration → Field} {value : Field}
    {earlier later : List (Override Configuration)} {write : Override Configuration}
    (writes : ∀ before after, write before = .ok after → field after = value)
    (leaves : ∀ change ∈ later, ∀ before after,
      change before = .ok after → field after = field before)
    {base configuration : Configuration}
    (applied : overridden (earlier ++ write :: later) base = .ok configuration) :
    field configuration = value := by
  induction earlier generalizing base with
  | nil =>
      rcases overridden_cons_ok.mp applied with ⟨next, changed, others⟩
      exact (overridden_keeps leaves others).trans (writes base next changed)
  | cons change rest inductionHypothesis =>
      rcases overridden_cons_ok.mp applied with ⟨next, _, others⟩
      exact inductionHypothesis others

/-! ## Construction -/

/-- The configuration that a call comes to with its overrides. -/
def Configures (settings : Settings) (circumstances : Circumstances Configuration Instance)
    (overrides : List (Override Configuration)) (configuration : Configuration) : Prop :=
  ∃ base, circumstances.managed.testConfiguration settings.listenAddresses = .done base ∧
    overridden overrides base = .ok configuration

def Reaction.value? {α : Type} : Reaction α → Option α
  | .done value => some value
  | .refused _ | .died _ => none

/-- Whether the machine provides all that a server takes. -/
def Circumstances.hasRoom (circumstances : Circumstances Configuration Instance) : Bool :=
  circumstances.noWorkDir.isNone && circumstances.noClient.isNone &&
    circumstances.noThread.isNone && circumstances.noRuntime.isNone

/-- The server that a call gets through construction with. It takes room, and settings by which its
readiness can be polled. -/
def constructed (settings : Settings) (circumstances : Circumstances Configuration Instance)
    (overrides : List (Override Configuration)) : Option Instance :=
  if circumstances.hasRoom && (Poller.ofSettings settings).isOk then do
    let base ← (circumstances.managed.testConfiguration settings.listenAddresses).value?
    let configuration ← (overridden overrides base).toOption
    (circumstances.managed.build configuration).value?
  else none

theorem started_launch (circumstances : Circumstances Configuration Instance) (poller : Poller)
    (probePath : String) (applied : Nat) (configuration : Configuration) :
    (launch circumstances poller probePath applied configuration).started =
      if circumstances.noRuntime.isNone then
        (circumstances.managed.build configuration).value?
      else none := by
  unfold launch
  cases circumstances.noRuntime with
  | some cause => rfl
  | none =>
      cases circumstances.managed.build configuration with
      | died text => rfl
      | refused text => rfl
      | done server =>
          simp only
          split <;> rfl

/-- An attempt ends before there is a thread, and then nothing is constructed; or it goes on with
the configuration of the caller on a thread. -/
theorem attempt_cases (settings : Settings) (circumstances : Circumstances Configuration Instance)
    (overrides : List (Override Configuration)) :
    (∃ applied outcome, attempt settings circumstances overrides = .early applied outcome ∧
      (∀ published, outcome ≠ .done published) ∧
      constructed settings circumstances overrides = none) ∨
    ∃ poller configuration, Configures settings circumstances overrides configuration ∧
      attempt settings circumstances overrides =
        launch circumstances poller settings.probePath overrides.length configuration ∧
      constructed settings circumstances overrides =
        if circumstances.noRuntime.isNone then
          (circumstances.managed.build configuration).value?
        else none := by
  unfold attempt constructed Circumstances.hasRoom
  cases circumstances.noWorkDir with
  | some cause => exact .inl ⟨_, _, rfl, by simp, rfl⟩
  | none =>
      cases tested : circumstances.managed.testConfiguration settings.listenAddresses with
      | died text => exact .inl ⟨_, _, rfl, by simp, by simp [Reaction.value?]⟩
      | refused text => exact .inl ⟨_, _, rfl, by simp, by simp [Reaction.value?]⟩
      | done base =>
          rcases applyOverrides_cases overrides base with ⟨count, text, failed, begun⟩ |
            ⟨configuration, applied, begun⟩
          · refine .inl ⟨count, .panicked text, ?_, by simp, ?_⟩
            · simp only [begun]
            · simp [Reaction.value?, failed, Except.toOption]
          · simp only [begun, Reaction.value?, applied, Except.toOption, Option.bind_eq_bind,
              Option.bind_some]
            cases Poller.ofSettings settings with
            | error fault => exact .inl ⟨_, _, rfl, by simp, by simp [Except.isOk, Except.toBool]⟩
            | ok poller =>
                cases circumstances.noClient with
                | some reason => exact .inl ⟨_, _, rfl, by simp, by simp⟩
                | none =>
                    cases circumstances.noThread with
                    | some cause => exact .inl ⟨_, _, rfl, by simp, by simp⟩
                    | none =>
                        refine .inr ⟨poller, configuration, ⟨base, tested, applied⟩, rfl, ?_⟩
                        simp [Except.isOk, Except.toBool]

/-- An attempt tells a server to start if it gets one constructed. -/
theorem started_attempt (settings : Settings)
    (circumstances : Circumstances Configuration Instance)
    (overrides : List (Override Configuration)) :
    (attempt settings circumstances overrides).started =
      constructed settings circumstances overrides := by
  rcases attempt_cases settings circumstances overrides with
    ⟨applied, outcome, ended, _, nothing⟩ | ⟨poller, configuration, _, went, built⟩
  · rw [ended, nothing]
    rfl
  · rw [went, built, started_launch]

/-- A server runs with a configuration if it was built from it and then started. -/
def ManagedServer.RunsWith (managed : ManagedServer Configuration Instance)
    (configuration : Configuration) (server : Instance) : Prop :=
  ∃ built, managed.build configuration = .done built ∧ managed.start built = .done server

/-- A reading of servers that tells the configuration they were built from, also of those that were
started since. -/
structure ManagedServer.Reports (managed : ManagedServer Configuration Instance)
    (configurationOf : Instance → Configuration) : Prop where
  built : ∀ configuration server,
    managed.build configuration = .done server → configurationOf server = configuration
  started : ∀ server running,
    managed.start server = .done running → configurationOf running = configurationOf server

theorem ManagedServer.Reports.eq_of_runsWith {managed : ManagedServer Configuration Instance}
    {configurationOf : Instance → Configuration} (reports : managed.Reports configurationOf)
    {configuration : Configuration} {server : Instance}
    (runs : managed.RunsWith configuration server) : configurationOf server = configuration := by
  rcases runs with ⟨built, constructed, started⟩
  exact (reports.started built server started).trans (reports.built configuration built constructed)

theorem TestSite.react_eq_done {α : Type} {result : Except ServerError α} {value : α}
    (done : react result = .done value) : result = .ok value := by
  cases result with
  | error error => cases done
  | ok found =>
      cases done
      rfl

/-- A control plane keeps the configuration that it was built from. -/
theorem TestSite.controlPlane_reports (site : TestSite) :
    site.controlPlane.Reports fun server => server.plane.config where
  built configuration server done := by
    have constructed : Server.new site.prepared configuration = .ok server := react_eq_done done
    exact (ControlPlane.ofConfig_ok (Server.new_ok constructed).1).1
  started server running done := by
    have begun := react_eq_done done
    rw [Server.start, Server.startWithin_run] at begun
    split at begun
    · cases begun
    · cases begun
      rfl

theorem startAndWait_ok {managed : ManagedServer Configuration Instance} {poller : Poller}
    {probePath : String} {server : Instance} {published : Instance × Endpoints}
    (ready : startAndWait managed poller probePath server = .ok published) :
    managed.start server = .done published.1 := by
  unfold startAndWait at ready
  split at ready
  · cases ready
  · cases ready
  · rename_i running started
    rcases Server.exists_of_bind_ok ready with ⟨endpoints, _, waiting⟩
    rcases Server.exists_of_bind_ok waiting with ⟨_, _, reported⟩
    cases reported
    exact started

theorem launch_done {circumstances : Circumstances Configuration Instance} {poller : Poller}
    {probePath : String} {applied : Nat} {configuration : Configuration}
    {published : Instance × Endpoints}
    (done : (launch circumstances poller probePath applied configuration).outcome =
      .done published) :
    circumstances.managed.RunsWith configuration published.1 ∧
      (launch circumstances poller probePath applied configuration).applied = applied := by
  unfold launch at done ⊢
  split at done
  · cases done
  · split at done
    · cases done
    · cases done
    · rename_i server built
      split at done
      · rename_i result ready
        cases done
        exact ⟨⟨server, built, startAndWait_ok ready⟩, rfl⟩
      · cases done

/-- An attempt that succeeds has begun each override once, and its server runs with what they have
made of the test configuration. -/
theorem attempt_done {settings : Settings} {circumstances : Circumstances Configuration Instance}
    {overrides : List (Override Configuration)} {published : Instance × Endpoints}
    (done : (attempt settings circumstances overrides).outcome = .done published) :
    (attempt settings circumstances overrides).applied = overrides.length ∧
      ∃ configuration, Configures settings circumstances overrides configuration ∧
        circumstances.managed.RunsWith configuration published.1 := by
  rcases attempt_cases settings circumstances overrides with
    ⟨applied, outcome, ended, unpublished, _⟩ | ⟨poller, configuration, configures, went, _⟩
  · rw [ended] at done
    exact absurd done (unpublished published)
  · rw [went] at done ⊢
    rcases launch_done done with ⟨runs, applied⟩
    exact ⟨applied, configuration, configures, runs⟩

end MeshControl.Harness
