import MeshControl.Harness.Shared

/-!
Everybody who has to do with one harness: the callers that share it, and those that hold closers
of its servers.

Callers come in any order and from any number of threads. What they do is cut into steps that
nobody can interrupt. Getting a server, asking for the current one and giving up the harness are
one step each, because the lock is held throughout. Closing takes two: the server is released
under the lock, and the signal to shut down follows without it, so that anything may happen in
between.
-/

namespace MeshControl.Harness

structure Callers (Instance : Type) where
  harness : Harness Instance
  /-- Whether the harness was given up. Closers outlive it. -/
  isGivenUp : Bool
  /-- The closers handed out so far, clones included. -/
  closers : List Closer
  /-- The closers whose holder released the server and is still to signal. -/
  closing : List Closer

namespace Callers

variable {Configuration Instance : Type}

def new (settings : Settings) : Callers Instance :=
  ⟨.new settings, false, [], []⟩

/-- What a caller can do without being interrupted. -/
inductive Step (Configuration Instance : Type) where
  /-- Get the running server, or bring one up. -/
  | ensure (circumstances : Circumstances Configuration Instance)
    (overrides : List (Override Configuration))
  | current
  | cloneCloser (closer : Closer)
  | isClosed (closer : Closer)
  /-- The first half of closing, under the lock. -/
  | release (closer : Closer)
  /-- The second half of closing. -/
  | signal (closer : Closer)
  | drop

inductive Answer (Instance : Type) where
  /-- There is nobody to do this, or nothing to say. -/
  | nothing
  | ensured (outcome : Outcome (Running Instance × Closer))
  | current (running : Option (Running Instance))
  | handed (closer : Closer)
  | truth (value : Bool)
  | closed

def handedOut : Outcome (Running Instance × Closer) → List Closer
  | .done (_, closer) => [closer]
  | .failed _ | .panicked _ => []

/-- Take a step. A closer that was never handed out cannot be used, a harness that was given up
cannot be asked, and only who released a server goes on to signal. -/
def act (callers : Callers Instance) :
    Step Configuration Instance → Answer Instance × Callers Instance
  | .ensure circumstances overrides =>
    if callers.isGivenUp then (.nothing, callers)
    else
      let result := callers.harness.ensureRunning circumstances overrides
      (.ensured result.1,
        { callers with harness := result.2, closers := callers.closers ++ handedOut result.1 })
  | .current =>
    if callers.isGivenUp then (.nothing, callers) else (.current callers.harness.current, callers)
  | .cloneCloser closer =>
    if closer ∈ callers.closers then
      (.handed closer, { callers with closers := callers.closers ++ [closer] })
    else (.nothing, callers)
  | .isClosed closer =>
    if closer ∈ callers.closers then (.truth (callers.harness.isClosed closer), callers)
    else (.nothing, callers)
  | .release closer =>
    if closer ∈ callers.closers then
      (.nothing,
        { callers with
          harness := callers.harness.release closer.generation
          closing := callers.closing ++ [closer] })
    else (.nothing, callers)
  | .signal closer =>
    if closer ∈ callers.closing then
      (.closed,
        { callers with
          harness := callers.harness.signal closer.generation
          closing := callers.closing.erase closer })
    else (.nothing, callers)
  | .drop =>
    if callers.isGivenUp then (.nothing, callers)
    else (.nothing, { callers with harness := callers.harness.drop, isGivenUp := true })

def step (callers : Callers Instance) (step : Step Configuration Instance) : Callers Instance :=
  (callers.act step).2

def answer (callers : Callers Instance) (step : Step Configuration Instance) : Answer Instance :=
  (callers.act step).1

@[simp]
theorem step_current (callers : Callers Instance) :
    callers.step (.current : Step Configuration Instance) = callers := by
  simp only [step, act]
  split <;> rfl

theorem answer_current {callers : Callers Instance} (kept : callers.isGivenUp = false) :
    callers.answer (.current : Step Configuration Instance) =
      .current callers.harness.published := by
  simp [answer, act, kept, current]

@[simp]
theorem step_isClosed (callers : Callers Instance) (closer : Closer) :
    callers.step (.isClosed closer : Step Configuration Instance) = callers := by
  simp only [step, act]
  split <;> rfl

def run (callers : Callers Instance) (steps : List (Step Configuration Instance)) :
    Callers Instance :=
  steps.foldl step callers

/-- Both halves of closing, without anything in between. -/
def close (closer : Closer) : List (Step Configuration Instance) :=
  [.release closer, .signal closer]

end Callers

end MeshControl.Harness
