import MeshControl.Harness.Shared

/-!
The harness that a whole process shares.

It is made on first use, with the settings that the variables give at that moment, and never
again. As long as the settings cannot be read nothing is made, and every use brings its caller
down.

The variables and what a machine has room for may change from one use to the next, so that each
step of a process comes with its own. Closers are used without the process: they keep to the
harness that handed them out.
-/

namespace MeshControl.Harness

/-- The shared harness, once it is made. -/
structure ProcessWide (Instance : Type) where
  harness : Option (Harness Instance)

namespace ProcessWide

variable {Configuration Instance : Type}

def initial : ProcessWide Instance := ⟨none⟩

/-- The shared harness, made from the variables if need be; or the text that brings the caller
down. -/
def obtain? (process : ProcessWide Instance) (environment : Variables) :
    Except String (Harness Instance) :=
  match process.harness with
  | some harness => .ok harness
  | none =>
    match Settings.ofVariables environment with
    | .ok settings => .ok (.new settings)
    | .error error => .error ("Invalid control plane harness settings: " ++ error.message)

/-- Use the shared harness without starting anything. -/
def touch (process : ProcessWide Instance) (environment : Variables) :
    Outcome Unit × ProcessWide Instance :=
  match process.obtain? environment with
  | .error text => (.panicked text, process)
  | .ok harness => (.done (), ⟨some harness⟩)

/-- Get the shared server, and report why there is none. -/
def tryEnsure (process : ProcessWide Instance) (environment : Variables)
    (circumstances : Circumstances Configuration Instance)
    (overrides : List (Override Configuration)) :
    Outcome (Running Instance × Closer) × ProcessWide Instance :=
  match process.obtain? environment with
  | .error text => (.panicked text, process)
  | .ok harness =>
    let (outcome, harness) := harness.ensureRunning circumstances overrides
    (outcome, ⟨some harness⟩)

/-- A test cannot go on without its server, so an error brings the caller down. -/
def insist {α : Type} : Outcome α → Outcome α
  | .failed error => .panicked ("Failed to start in-process control plane: " ++ error.message)
  | outcome => outcome

/-- Get the shared server, or bring down the caller. -/
def ensure (process : ProcessWide Instance) (environment : Variables)
    (circumstances : Circumstances Configuration Instance)
    (overrides : List (Override Configuration)) :
    Outcome (Running Instance × Closer) × ProcessWide Instance :=
  let (outcome, process) := process.tryEnsure environment circumstances overrides
  (insist outcome, process)

def current (process : ProcessWide Instance) : Option (Running Instance) :=
  process.harness.bind Harness.current

/-! ## A process over time -/

/-- What can be done with the shared harness without being interrupted. -/
inductive Step (Configuration Instance : Type) where
  | touch (environment : Variables)
  | tryEnsure (environment : Variables) (circumstances : Circumstances Configuration Instance)
    (overrides : List (Override Configuration))
  | ensure (environment : Variables) (circumstances : Circumstances Configuration Instance)
    (overrides : List (Override Configuration))
  /-- The first half of closing, under the lock. -/
  | release (closer : Closer)
  /-- The second half of closing. -/
  | signal (closer : Closer)

def step (process : ProcessWide Instance) : Step Configuration Instance → ProcessWide Instance
  | .touch environment => (process.touch environment).2
  | .tryEnsure environment circumstances overrides =>
    (process.tryEnsure environment circumstances overrides).2
  | .ensure environment circumstances overrides =>
    (process.ensure environment circumstances overrides).2
  | .release closer => ⟨process.harness.map (·.release closer.generation)⟩
  | .signal closer => ⟨process.harness.map (·.signal closer.generation)⟩

def run (process : ProcessWide Instance) (steps : List (Step Configuration Instance)) :
    ProcessWide Instance :=
  steps.foldl step process

end ProcessWide

end MeshControl.Harness
