import MeshControl.Proofs.Harness.Accounting
import MeshControl.Proofs.Harness.FirstUse
import MeshControl.Proofs.Harness.Startable

/-!
The shared harness is one harness.

A process looks at its variables each time that somebody asks for the shared harness. What it does
with them can be told in two parts. Up to the first call that finds settings that can be read, every
call brings its caller down and nothing is kept. From then on the variables have no part in anything:
the process does with each step what a harness of its own would do that was made with those settings
and never had any variables. To say this, what a step asks of a harness is kept apart from what it
finds in the variables.

Main statement: `run_shares_one`.
-/

namespace MeshControl

namespace Harness

variable {Configuration Instance : Type}

/-! ## A harness without a process -/

/-- What is asked of a harness that is there. -/
inductive Use (Configuration Instance : Type) where
  | touch
  /-- Get the server. Whoever insists is brought down by an error. -/
  | ensure (insists : Bool) (circumstances : Circumstances Configuration Instance)
    (overrides : List (Override Configuration))
  | release (closer : Closer)
  | signal (closer : Closer)

/-- What the one who asks is told. -/
inductive Reply (Instance : Type) where
  /-- Closers tell nothing. -/
  | nothing
  | touched (outcome : Outcome Unit)
  | ensured (outcome : Outcome (Running Instance × Closer))

/-- The text that brings down the one who asks. -/
def Reply.panic? : Reply Instance → Option String
  | .touched (.panicked text) => some text
  | .ensured (.panicked text) => some text
  | _ => none

def reply (harness : Harness Instance) : Use Configuration Instance → Reply Instance
  | .touch => .touched (.done ())
  | .ensure insists circumstances overrides =>
    let outcome := (harness.ensureRunning circumstances overrides).1
    .ensured (if insists then ProcessWide.insist outcome else outcome)
  | .release _ | .signal _ => .nothing

def afterUse (harness : Harness Instance) : Use Configuration Instance → Harness Instance
  | .touch => harness
  | .ensure _ circumstances overrides => (harness.ensureRunning circumstances overrides).2
  | .release closer => harness.release closer.generation
  | .signal closer => harness.signal closer.generation

def afterUses (harness : Harness Instance) (uses : List (Use Configuration Instance)) :
    Harness Instance :=
  uses.foldl afterUse harness

/-- Settings are for good. -/
theorem settings_afterUse (harness : Harness Instance) (use : Use Configuration Instance) :
    (harness.afterUse use).settings = harness.settings := by
  cases use with
  | touch => rfl
  | ensure insists circumstances overrides =>
      exact harness.settings_ensureRunning circumstances overrides
  | release closer => exact harness.settings_release closer.generation
  | signal closer => exact harness.settings_signal closer.generation

theorem settings_afterUses (harness : Harness Instance)
    (uses : List (Use Configuration Instance)) :
    (harness.afterUses uses).settings = harness.settings := by
  induction uses generalizing harness with
  | nil => rfl
  | cons use rest inductionHypothesis =>
      exact (inductionHypothesis (harness.afterUse use)).trans (harness.settings_afterUse use)

/-! ## Variables -/

/-- No variable and a variable of blanks leave every setting at its default. -/
theorem Settings.ofVariables_of_blank {environment : Variables}
    (blank : ∀ value, environment httpPortKey = some value → Text.AllBlank value.toList) :
    ofVariables environment = .ok default :=
  ofVariables_of_ok (readHttpPort_blank blank)

namespace ProcessWide

/-! ## Steps of a process -/

/-- What a step tells the one who takes it. -/
def reply (process : ProcessWide Instance) : Step Configuration Instance → Reply Instance
  | .touch environment => .touched (process.touch environment).1
  | .tryEnsure environment circumstances overrides =>
    .ensured (process.tryEnsure environment circumstances overrides).1
  | .ensure environment circumstances overrides =>
    .ensured (process.ensure environment circumstances overrides).1
  | .release _ | .signal _ => .nothing

/-- What a step asks of the harness, whatever it finds in the variables. -/
def Step.use : Step Configuration Instance → Use Configuration Instance
  | .touch _ => .touch
  | .tryEnsure _ circumstances overrides => .ensure false circumstances overrides
  | .ensure _ circumstances overrides => .ensure true circumstances overrides
  | .release closer => .release closer
  | .signal closer => .signal closer

/-- The settings that a step finds, if it looks at the variables and can read them. -/
def Step.settings? (step : Step Configuration Instance) : Option Settings :=
  step.environment?.bind fun environment => (Settings.ofVariables environment).toOption

/-- A process that has its harness does what the harness does. -/
theorem step_of_harness (harness : Harness Instance) (next : Step Configuration Instance) :
    (⟨some harness⟩ : ProcessWide Instance).reply next = harness.reply next.use ∧
      (⟨some harness⟩ : ProcessWide Instance).step next = ⟨some (harness.afterUse next.use)⟩ := by
  cases next <;> exact ⟨rfl, rfl⟩

/-- The first call that can read its settings makes the harness, and is served by it. -/
theorem step_of_read {next : Step Configuration Instance} {settings : Settings}
    (read : next.settings? = some settings) :
    (initial : ProcessWide Instance).reply next = (Harness.new settings).reply next.use ∧
      (initial : ProcessWide Instance).step next =
        ⟨some ((Harness.new settings).afterUse next.use)⟩ := by
  rcases Option.bind_eq_some_iff.mp read with ⟨environment, looked, found⟩
  have obtained : (initial : ProcessWide Instance).obtain? environment =
      .ok (Harness.new settings) := by
    cases loaded : Settings.ofVariables environment with
    | error error => simp [loaded, Except.toOption] at found
    | ok first =>
        obtain rfl : first = settings := by simpa [loaded, Except.toOption] using found
        simp only [obtain?, initial, loaded]
  cases next <;> cases looked <;>
    simp [reply, step, touch, tryEnsure, ensure, obtained, Step.use, Harness.reply, afterUse]

/-- A call that cannot read its settings brings its caller down and keeps nothing. -/
theorem step_of_unread {next : Step Configuration Instance} (unread : next.settings? = none) :
    (initial : ProcessWide Instance).step next = initial ∧
      ∀ environment, next.environment? = some environment →
        ∃ error, Settings.ofVariables environment = .error error ∧
          ((initial : ProcessWide Instance).reply next).panic? =
            some ("Invalid control plane harness settings: " ++ error.message) := by
  have refused {environment : Variables} (looked : next.environment? = some environment) :
      ∃ error, Settings.ofVariables environment = .error error ∧
        (initial : ProcessWide Instance).obtain? environment =
          .error ("Invalid control plane harness settings: " ++ error.message) := by
    cases loaded : Settings.ofVariables environment with
    | ok settings => simp [Step.settings?, looked, loaded, Except.toOption] at unread
    | error error => exact ⟨error, rfl, by simp only [obtain?, initial, loaded]⟩
  cases next with
  | release closer | signal closer =>
      refine ⟨rfl, ?_⟩
      rintro _ ⟨⟩
  | touch environment | tryEnsure environment | ensure environment =>
      rcases refused rfl with ⟨error, loaded, obtained⟩
      refine ⟨by simp only [step, touch, tryEnsure, ensure, obtained], ?_⟩
      rintro _ ⟨⟩
      refine ⟨error, loaded, ?_⟩
      simp only [reply, touch, tryEnsure, ensure, insist, obtained, Reply.panic?]

/-! ## Whole runs -/

theorem run_of_harness (harness : Harness Instance) (steps : List (Step Configuration Instance)) :
    (⟨some harness⟩ : ProcessWide Instance).run steps =
      ⟨some (harness.afterUses (steps.map Step.use))⟩ := by
  induction steps generalizing harness with
  | nil => rfl
  | cons next rest inductionHypothesis =>
      rw [run, List.foldl_cons, (step_of_harness harness next).2]
      exact inductionHypothesis (harness.afterUse next.use)

theorem run_of_unread {steps : List (Step Configuration Instance)}
    (unread : ∀ step ∈ steps, step.settings? = none) :
    (initial : ProcessWide Instance).run steps = initial := by
  induction steps with
  | nil => rfl
  | cons next rest inductionHypothesis =>
      rcases List.forall_mem_cons.mp unread with ⟨first, others⟩
      rw [run, List.foldl_cons, (step_of_unread first).1]
      exact inductionHypothesis others

/-- The shared harness is made once.

As long as no call has found settings that can be read, each of them brings its caller down and
nothing is kept, so that a later call can still make the harness. From the first call on that can
read its settings, this call included, every call gets what one harness with these settings gives,
which goes on from call to call whatever the calls find in the variables. Settings can be read if the
variable is not set or blank. -/
theorem run_shares_one {early : List (Step Configuration Instance)}
    (unread : ∀ step ∈ early, step.settings? = none) (next : Step Configuration Instance) :
    let process := (initial : ProcessWide Instance).run early
    process = initial ∧
    (next.settings? = none → process.step next = initial ∧
      ∀ environment, next.environment? = some environment →
        ∃ error, Settings.ofVariables environment = .error error ∧
          (process.reply next).panic? =
            some ("Invalid control plane harness settings: " ++ error.message)) ∧
    (∀ settings, next.settings? = some settings →
      process.reply next = (Harness.new settings).reply next.use ∧
      ∀ later : List (Step Configuration Instance),
        let harness := (Harness.new settings).afterUses ((next :: later).map Step.use)
        process.run (next :: later) = ⟨some harness⟩ ∧ harness.settings = settings ∧
        ∀ last : Step Configuration Instance,
          (process.run (next :: later)).reply last = harness.reply last.use) ∧
    ∀ environment, next.environment? = some environment →
      (∀ value, environment httpPortKey = some value → Text.AllBlank value.toList) →
        next.settings? = some .default := by
  intro process
  have fresh : process = initial := run_of_unread unread
  rw [fresh]
  refine ⟨rfl, step_of_unread, ?_, ?_⟩
  · intro settings read
    refine ⟨(step_of_read read).1, ?_⟩
    intro later harness
    have ran : (initial : ProcessWide Instance).run (next :: later) = ⟨some harness⟩ := by
      rw [run, List.foldl_cons, (step_of_read read).2]
      exact run_of_harness ((Harness.new settings).afterUse next.use) later
    refine ⟨ran, settings_afterUses _ _, ?_⟩
    intro last
    rw [ran]
    exact (step_of_harness harness last).1
  · intro environment looked blank
    rw [Step.settings?, looked, Option.bind_some, Settings.ofVariables_of_blank blank]
    rfl

/-- A port with blanks around it. -/
def pinned : Variables := fun name =>
  if name = httpPortKey then some " 8080 " else none

/-- A first call finds a bad port. The second one finds a good one, which stays although the bad one
is back when somebody insists on a server. -/
theorem run_shares_one_pinned :
    let circumstances : Circumstances Config Server := { managed := quietSite.controlPlane }
    let early : List (Step Config Server) := [.touch misnamed]
    (∀ step ∈ early, step.settings? = none) ∧
      ∃ harness, (initial : ProcessWide Server).run
          [.touch misnamed, .touch pinned, .ensure misnamed circumstances []] = ⟨some harness⟩ ∧
        harness.settings = { Settings.default with httpPort := 8080 } := by
  intro circumstances early
  have unread : ∀ step ∈ early, step.settings? = none := List.forall_mem_singleton.mpr rfl
  have shared := run_shares_one unread (.touch pinned)
  rcases shared with ⟨-, -, made, -⟩
  have read : (Step.touch pinned : Step Config Server).settings? =
      some { Settings.default with httpPort := 8080 } := by rfl
  rcases (made _ read).2 [.ensure misnamed circumstances []] with ⟨ran, settings, -⟩
  exact ⟨unread, _, ran, settings⟩

end ProcessWide

end Harness

end MeshControl
