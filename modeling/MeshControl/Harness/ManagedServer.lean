import MeshControl.Cancellation
import MeshControl.Harness.Endpoint
import MeshControl.Harness.Readiness

/-!
Servers under test, as a harness sees them, and one attempt to bring one up.

The stages of an attempt follow each other strictly, and the first that fails decides what the
caller gets: a directory for the fixtures, the test configuration, the overrides of the caller, the
polling settings, a client to probe with, a thread with its runtime, the construction, the start, the
addresses of the three listeners, and at last the readiness. From the construction on, the server
runs on that thread; if it dies there, the caller only sees that the thread is gone. Before that it
runs on the thread of the caller, and takes the caller with it.

The signal to shut down is handed down in a chain. The coordinator of the attempt hands out a token
to the thread, which listens to it while it waits for readiness, and the server gets a child of that
token. What the server does with its tokens is up to the server.
-/

namespace MeshControl.Harness

/-- How a server reacts when it is asked for something. -/
inductive Reaction (α : Type) where
  | done (value : α)
  | refused (text : String)
  /-- The server brings down the thread that it is asked on, with a text. -/
  | died (text : String)

/-- Something that a server does with a token that it holds. Its tokens are numbered in the order in
which it got them, and the first is the one that it was started with. -/
inductive TokenUse where
  /-- Make a child of the token. -/
  | child (held : Nat)
  | cancel (held : Nat)
deriving DecidableEq

/-- A kind of server that a harness can start, inspect and stop. -/
structure ManagedServer (Configuration Instance : Type) where
  /-- The configuration for tests that listens on the given addresses. -/
  testConfiguration : PerListener String → Reaction Configuration
  build : Configuration → Reaction Instance
  /-- Bind the listeners and begin to serve. -/
  start : Instance → Reaction Instance
  /-- The address that a listener reports; asking may bring the server down. -/
  address : Instance → Listener → Option (Option String)
  /-- What comes of probing a URL, by the number of the probe. -/
  replies : Instance → String → Nat → ProbeReply
  /-- What a started server does with its tokens, and how long into the wait for its readiness. What
  it has done before the wait comes first, and takes no time. -/
  tokenUses : Instance → List (Duration × TokenUse) := fun _ => []

/-- What an attempt finds: the kind of server, and what the machine does not provide. -/
structure Circumstances (Configuration Instance : Type) where
  managed : ManagedServer Configuration Instance
  /-- Why there is no directory for the fixtures of the server. -/
  noWorkDir : Option SystemError := none
  /-- Why there is no client to probe the server with. -/
  noClient : Option String := none
  /-- Why there is no thread for the server. -/
  noThread : Option SystemError := none
  /-- Why there is no runtime on the thread. -/
  noRuntime : Option SystemError := none

/-- A change that a caller makes to the test configuration. It may fail with a text, which then
ends the call and not only the attempt. -/
abbrev Override (Configuration : Type) := Configuration → Except String Configuration

/-- Apply overrides in order. The number counts those that were begun. -/
def applyOverrides {Configuration : Type} :
    List (Override Configuration) → Configuration → Nat × Except String Configuration
  | [], configuration => (0, .ok configuration)
  | change :: rest, configuration =>
    match change configuration with
    | .error text => (1, .error text)
    | .ok changed =>
      let (count, result) := applyOverrides rest changed
      (count + 1, result)

inductive Outcome (α : Type) where
  | done (value : α)
  | failed (error : HarnessError)
  /-- The caller itself is brought down with a text. -/
  | panicked (text : String)

/-- What became of one attempt to bring up a server. -/
structure Attempt (Instance : Type) where
  /-- How many overrides were begun. -/
  applied : Nat
  /-- Whether a thread was made for the server. -/
  launched : Bool
  /-- The server, if it was built and so told to start. -/
  started : Option Instance
  outcome : Outcome (Instance × Endpoints)

/-! ## The signal to shut down -/

/-- The token that the thread of a server listens to. -/
def threadToken : Nat := 0

/-- The token that a server is started with. The tokens that it makes come after it. -/
def serverToken : Nat := 1

/-- A coordinator of which the thread has a token, and the server a child of that. -/
def handedDown : List Cancellation.Step := [.newToken 0, .childToken threadToken]

def TokenUse.step : TokenUse → Cancellation.Step
  | child held => .childToken (serverToken + held)
  | cancel held => .cancelToken (serverToken + held)

/-- When a token fires, if anything that is done makes it fire. -/
def firesAt (token : Nat) (state : Cancellation) : List (Duration × TokenUse) → Option Duration
  | [] => none
  | (time, use) :: later =>
    let next := state.step use.step
    if next.isFired token then some time else firesAt token next later

/-! ## Bringing up a server -/

section

variable {Configuration Instance : Type}

/-- When the thread of a server hears that it is to shut down, before it has reported anything. -/
def calledOff (managed : ManagedServer Configuration Instance) (server : Instance) :
    Option Duration :=
  firesAt threadToken (Cancellation.initial.run handedDown) (managed.tokenUses server)

def publish (managed : ManagedServer Configuration Instance) (server : Instance) :
    Except HarnessError Endpoints :=
  match Endpoints.resolve (managed.address server) with
  | none => .error .died
  | some result => result

/-- Wait until a started server is ready at its HTTP endpoint, or the thread is told to shut down. -/
def awaitReady (managed : ManagedServer Configuration Instance) (poller : Poller)
    (probePath : String) (server : Instance) (endpoints : Endpoints) :
    Except HarnessError Unit :=
  let url := endpoints.http.url ++ probePath
  match poller.wait (managed.replies server url) (calledOff managed server) with
  | .ready => .ok ()
  | .timedOut => .error (.readinessTimeout url poller.maxWait)
  | .cancelled =>
    .error (.shutdownSignal "shutdown signaled before the server became ready")

/-- Start a server that was built, and wait until it is ready. -/
def startAndWait (managed : ManagedServer Configuration Instance) (poller : Poller)
    (probePath : String) (server : Instance) : Except HarnessError (Instance × Endpoints) :=
  match managed.start server with
  | .died _ => .error .died
  | .refused text => .error (.start text)
  | .done running => do
    let endpoints ← publish managed running
    awaitReady managed poller probePath running endpoints
    return (running, endpoints)

/-- The part of an attempt that runs on the thread of the server. -/
def launch (circumstances : Circumstances Configuration Instance) (poller : Poller)
    (probePath : String) (applied : Nat) (configuration : Configuration) : Attempt Instance :=
  match circumstances.noRuntime with
  | some cause => ⟨applied, true, none, .failed (.threadLost cause)⟩
  | none =>
    match circumstances.managed.build configuration with
    | .died _ => ⟨applied, true, none, .failed .died⟩
    | .refused text => ⟨applied, true, none, .failed (.configuration (.refused text))⟩
    | .done server =>
      match startAndWait circumstances.managed poller probePath server with
      | .ok published => ⟨applied, true, some server, .done published⟩
      | .error error => ⟨applied, true, some server, .failed error⟩

/-- An attempt that ends before there is a thread. -/
def Attempt.early (applied : Nat) (outcome : Outcome (Instance × Endpoints)) : Attempt Instance :=
  ⟨applied, false, none, outcome⟩

def attempt (settings : Settings) (circumstances : Circumstances Configuration Instance)
    (overrides : List (Override Configuration)) : Attempt Instance :=
  match circumstances.noWorkDir with
  | some cause => .early 0 (.failed (.configuration (.noWorkDir cause)))
  | none =>
    match circumstances.managed.testConfiguration settings.listenAddresses with
    | .died text => .early 0 (.panicked text)
    | .refused text => .early 0 (.failed (.configuration (.refused text)))
    | .done configuration =>
      match applyOverrides overrides configuration with
      | (applied, .error text) => .early applied (.panicked text)
      | (applied, .ok configuration) =>
        match Poller.ofSettings settings with
        | .error fault => .early applied (.failed (.configuration fault))
        | .ok poller =>
          match circumstances.noClient with
          | some reason => .early applied (.failed (.configuration (.noClient reason)))
          | none =>
            match circumstances.noThread with
            | some cause => .early applied (.failed (.threadLost cause))
            | none => launch circumstances poller settings.probePath applied configuration

/-! ## What an attempt leaves -/

/-- How far an attempt came, as far as its outcome tells. A panic reaches the caller only while
there is no thread, so whoever launched a thread is there to tell it to shut down. -/
structure Attempt.Orderly (result : Attempt Instance) : Prop where
  launched_of_done : ∀ published, result.outcome = .done published → result.launched = true
  launched_of_started : result.started.isSome = true → result.launched = true
  not_launched_of_panicked : ∀ text, result.outcome = .panicked text → result.launched = false

theorem Attempt.early_orderly (applied : Nat) (outcome : Outcome (Instance × Endpoints))
    (unpublished : ∀ published, outcome ≠ .done published) :
    (Attempt.early applied outcome).Orderly where
  launched_of_done published done := absurd done (unpublished published)
  launched_of_started started := absurd started (by simp [Attempt.early])
  not_launched_of_panicked _ _ := rfl

theorem launch_orderly (circumstances : Circumstances Configuration Instance) (poller : Poller)
    (probePath : String) (applied : Nat) (configuration : Configuration) :
    (launch circumstances poller probePath applied configuration).Orderly := by
  unfold launch
  split
  · constructor <;> simp
  · split
    · constructor <;> simp
    · constructor <;> simp
    · split <;> constructor <;> simp

theorem attempt_orderly (settings : Settings)
    (circumstances : Circumstances Configuration Instance)
    (overrides : List (Override Configuration)) :
    (attempt settings circumstances overrides).Orderly := by
  unfold attempt
  split
  · exact Attempt.early_orderly _ _ (by simp)
  split
  · exact Attempt.early_orderly _ _ (by simp)
  · exact Attempt.early_orderly _ _ (by simp)
  split
  · exact Attempt.early_orderly _ _ (by simp)
  split
  · exact Attempt.early_orderly _ _ (by simp)
  split
  · exact Attempt.early_orderly _ _ (by simp)
  split
  · exact Attempt.early_orderly _ _ (by simp)
  · exact launch_orderly _ _ _ _ _

end

end MeshControl.Harness
