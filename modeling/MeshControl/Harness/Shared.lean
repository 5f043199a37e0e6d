import MeshControl.Harness.ManagedServer

/-!
A harness: the owner of at most one running server, which all callers share.

The first call brings the server up, and later calls get the same one until it is closed. Each
attempt has a generation, and with it a signal to shut down. A closer belongs to a generation, so
one that is left over from an earlier server cannot tear down a later one. An attempt that fails
publishes nothing, and whatever it had launched is told to shut down.

What is published stands in a slot behind a lock. A server that leaves the slot, for whatever
reason, is told to shut down as it leaves, so that nobody can find it withdrawn and still running.
The signal is kept apart from the slot, because closers reach it without the lock.
-/

namespace MeshControl

namespace Harness

/-- A server that is published to callers. -/
structure Running (Instance : Type) where
  /-- The number of the attempt that brought it up. -/
  generation : Nat
  server : Instance
  endpoints : Endpoints

namespace Running

variable {Instance : Type}

/-- Whether two callers hold the same server. -/
def isSame (first second : Running Instance) : Bool :=
  first.generation == second.generation

def inspect (running : Running Instance) : String :=
  Text.inspectPart "RunningServer" [("endpoints", running.endpoints.inspect)]

end Running

/-- The right to tear down the server of one generation. All clones of a closer are equal. -/
structure Closer where
  generation : Nat
deriving DecidableEq

structure LaunchRecord (Instance : Type) where
  generation : Nat
  applied : Nat
  launched : Bool
  started : Option Instance

/-! ## The lock -/

/-- Something behind a lock. The lock remembers whether somebody was brought down while holding
it. -/
structure Guarded (α : Type) where
  content : α
  isPoisoned : Bool

namespace Guarded

variable {α : Type}

def new (content : α) : Guarded α := ⟨content, false⟩

/-- Take the lock. After an accident the content comes with a warning. -/
def lock (guarded : Guarded α) : Except α α :=
  if guarded.isPoisoned then .error guarded.content else .ok guarded.content

/-- The content, with a warning or without. What is behind the lock is only ever replaced as a
whole, so an accident cannot have left it half written. -/
def enter (guarded : Guarded α) : α :=
  match guarded.lock with
  | .ok content => content
  | .error content => content

def put (guarded : Guarded α) (content : α) : Guarded α :=
  { guarded with content }

/-- The lock after somebody was brought down while holding it. -/
def poison (guarded : Guarded α) : Guarded α :=
  { guarded with isPoisoned := true }

@[simp]
theorem enter_eq (guarded : Guarded α) : guarded.enter = guarded.content := by
  unfold enter lock
  cases guarded.isPoisoned <;> rfl

@[simp]
theorem content_put (guarded : Guarded α) (content : α) :
    (guarded.put content).content = content := rfl

@[simp]
theorem content_poison (guarded : Guarded α) : guarded.poison.content = guarded.content := rfl

end Guarded

structure Slot (Instance : Type) where
  published : Option (Running Instance)
  /-- The number of the latest attempt. That a counter of 64 bits would run over at some time is left
  out. -/
  generation : Nat

end Harness

structure Harness (Instance : Type) where
  settings : Harness.Settings
  slot : Harness.Guarded (Harness.Slot Instance)
  /-- The generations that were told to shut down. -/
  signalled : List Nat
  /-- All attempts so far, the oldest first. -/
  records : List (Harness.LaunchRecord Instance)

namespace Harness

variable {Configuration Instance : Type}

def new (settings : Settings) : Harness Instance :=
  ⟨settings, .new ⟨none, 0⟩, [], []⟩

/-! ## What can be seen -/

def published (harness : Harness Instance) : Option (Running Instance) :=
  harness.slot.enter.published

def generation (harness : Harness Instance) : Nat :=
  harness.slot.enter.generation

def current (harness : Harness Instance) : Option (Running Instance) :=
  harness.published

def isSignalled (harness : Harness Instance) (generation : Nat) : Bool :=
  harness.signalled.contains generation

/-- Whether a closer has nothing left to close. -/
def isClosed (harness : Harness Instance) (closer : Closer) : Bool :=
  harness.isSignalled closer.generation

/-- How many overrides were begun in all attempts together. -/
def applied (harness : Harness Instance) : Nat :=
  (harness.records.map LaunchRecord.applied).foldr (· + ·) 0

/-- The attempts in which a server was told to start. -/
def starts (harness : Harness Instance) : List (LaunchRecord Instance) :=
  harness.records.filter fun record => record.started.isSome

/-- The attempts whose thread was not told to shut down. -/
def live (harness : Harness Instance) : List (LaunchRecord Instance) :=
  harness.records.filter fun record => record.launched && !harness.isSignalled record.generation

def inspectCloser (harness : Harness Instance) (closer : Closer) : String :=
  Text.inspectPart "Closer" [("closed", Text.inspectBool (harness.isClosed closer))]

def inspect (harness : Harness Instance) : String :=
  Text.inspectRecord "Harness" [("settings", harness.settings.inspect),
    ("running", Text.inspectBool harness.current.isSome)]

/-! ## Shutting down -/

def putPublished (harness : Harness Instance) (published : Option (Running Instance)) :
    Harness Instance :=
  { harness with slot := harness.slot.put { harness.slot.enter with published } }

/-- Tell a generation to shut down. Telling it again changes nothing. -/
def signal (harness : Harness Instance) (generation : Nat) : Harness Instance :=
  if harness.isSignalled generation then harness
  else { harness with signalled := harness.signalled ++ [generation] }

/-- Empty the slot. The server that leaves it is told to shut down. -/
def withdraw (harness : Harness Instance) : Harness Instance :=
  match harness.published with
  | some running => (harness.putPublished none).signal running.generation
  | none => harness

@[simp]
theorem published_putPublished (harness : Harness Instance)
    (published : Option (Running Instance)) :
    (harness.putPublished published).published = published := by
  simp [Harness.published, putPublished]

@[simp]
theorem generation_putPublished (harness : Harness Instance)
    (published : Option (Running Instance)) :
    (harness.putPublished published).generation = harness.generation := by
  simp [generation, putPublished]

@[simp]
theorem isSignalled_putPublished (harness : Harness Instance)
    (published : Option (Running Instance)) (generation : Nat) :
    (harness.putPublished published).isSignalled generation = harness.isSignalled generation := rfl

@[simp]
theorem records_putPublished (harness : Harness Instance)
    (published : Option (Running Instance)) :
    (harness.putPublished published).records = harness.records := rfl

@[simp]
theorem settings_putPublished (harness : Harness Instance)
    (published : Option (Running Instance)) :
    (harness.putPublished published).settings = harness.settings := rfl

@[simp]
theorem slot_signal (harness : Harness Instance) (generation : Nat) :
    (harness.signal generation).slot = harness.slot := by
  unfold signal
  split <;> rfl

@[simp]
theorem published_signal (harness : Harness Instance) (generation : Nat) :
    (harness.signal generation).published = harness.published := by
  simp [published]

@[simp]
theorem generation_signal (harness : Harness Instance) (generation : Nat) :
    (harness.signal generation).generation = harness.generation := by
  simp [Harness.generation]

@[simp]
theorem records_signal (harness : Harness Instance) (generation : Nat) :
    (harness.signal generation).records = harness.records := by
  unfold signal
  split <;> rfl

@[simp]
theorem settings_signal (harness : Harness Instance) (generation : Nat) :
    (harness.signal generation).settings = harness.settings := by
  unfold signal
  split <;> rfl

/-- A signal reaches one generation, and is never taken back. -/
@[simp]
theorem isSignalled_signal (harness : Harness Instance) (signalled generation : Nat) :
    (harness.signal signalled).isSignalled generation =
      (decide (generation = signalled) || harness.isSignalled generation) := by
  unfold signal
  split
  · rename_i already
    by_cases same : generation = signalled
    · subst same
      simp [already]
    · simp [same]
  · by_cases same : generation = signalled <;> simp [isSignalled, same]

/-- Withdraw the published server if it is of this generation. -/
def release (harness : Harness Instance) (generation : Nat) : Harness Instance :=
  match harness.published with
  | some running => if running.generation = generation then harness.withdraw else harness
  | none => harness

/-- Close: withdraw the server if it is still published, and tell it to shut down. -/
def close (harness : Harness Instance) (closer : Closer) : Harness Instance :=
  (harness.release closer.generation).signal closer.generation

/-- Give up the harness itself, and with it the server that it owns. -/
def drop (harness : Harness Instance) : Harness Instance :=
  harness.withdraw

/-! ## Bringing up -/

/-- The published server, unless it was told to shut down behind the back of the harness. -/
def reusable (harness : Harness Instance) : Option (Running Instance) :=
  harness.published.filter fun running => !harness.isSignalled running.generation

/-- The harness once an attempt is counted and recorded, before anything is made of its
outcome. -/
def afterAttempt (harness : Harness Instance) (result : Attempt Instance) : Harness Instance :=
  let generation := harness.generation + 1
  { harness with
    slot := harness.slot.put { harness.slot.enter with generation }
    records := harness.records ++
      [⟨generation, result.applied, result.launched, result.started⟩] }

@[simp]
theorem published_afterAttempt (harness : Harness Instance) (result : Attempt Instance) :
    (harness.afterAttempt result).published = harness.published := by
  simp [published, afterAttempt]

@[simp]
theorem generation_afterAttempt (harness : Harness Instance) (result : Attempt Instance) :
    (harness.afterAttempt result).generation = harness.generation + 1 := by
  simp [generation, afterAttempt]

@[simp]
theorem isSignalled_afterAttempt (harness : Harness Instance) (result : Attempt Instance)
    (generation : Nat) :
    (harness.afterAttempt result).isSignalled generation = harness.isSignalled generation := rfl

@[simp]
theorem records_afterAttempt (harness : Harness Instance) (result : Attempt Instance) :
    (harness.afterAttempt result).records = harness.records ++
      [⟨harness.generation + 1, result.applied, result.launched, result.started⟩] := rfl

@[simp]
theorem settings_afterAttempt (harness : Harness Instance) (result : Attempt Instance) :
    (harness.afterAttempt result).settings = harness.settings := rfl

/-- The harness after a caller was brought down while holding its lock. -/
def poison (harness : Harness Instance) : Harness Instance :=
  { harness with slot := harness.slot.poison }

@[simp]
theorem published_poison (harness : Harness Instance) :
    harness.poison.published = harness.published := by
  simp [published, poison]

@[simp]
theorem generation_poison (harness : Harness Instance) :
    harness.poison.generation = harness.generation := by
  simp [generation, poison]

@[simp]
theorem isSignalled_poison (harness : Harness Instance) (generation : Nat) :
    harness.poison.isSignalled generation = harness.isSignalled generation := rfl

@[simp]
theorem records_poison (harness : Harness Instance) : harness.poison.records = harness.records :=
  rfl

@[simp]
theorem settings_poison (harness : Harness Instance) :
    harness.poison.settings = harness.settings := rfl

/-- Bring up a server. A panic leaves the lock poisoned. -/
def bringUp (harness : Harness Instance) (circumstances : Circumstances Configuration Instance)
    (overrides : List (Override Configuration)) :
    Outcome (Running Instance × Closer) × Harness Instance :=
  let result := attempt harness.settings circumstances overrides
  let next := harness.afterAttempt result
  match result.outcome with
  | .done (server, endpoints) =>
    let running := ⟨next.generation, server, endpoints⟩
    (.done (running, ⟨next.generation⟩), next.putPublished (some running))
  | .failed error =>
    (.failed error, if result.launched then next.signal next.generation else next)
  | .panicked text => (.panicked text, next.poison)

/-- Get the running server, or bring one up. The overrides take effect only if one is brought
up. -/
def ensureRunning (harness : Harness Instance)
    (circumstances : Circumstances Configuration Instance)
    (overrides : List (Override Configuration)) :
    Outcome (Running Instance × Closer) × Harness Instance :=
  match harness.reusable with
  | some running => (.done (running, ⟨running.generation⟩), harness)
  | none => harness.withdraw.bringUp circumstances overrides

end Harness

end MeshControl
