import MeshControl.Proofs.Cancellation.Firing
import MeshControl.Proofs.Harness.AddressGrammar
import MeshControl.Proofs.Harness.FirstCaller
import MeshControl.Proofs.Harness.Probing

/-!
Which fault a call reports that was to bring up a server.

Bringing up a server takes many stages on two threads. What each of them can fail on is stated here
for itself: on what the machine does not provide, on the settings, or on what the server does once it
has come as far as the stage. Then a call reports the first fault in the order of the stages, if there
is one. No stage stands for the signal to shut down. The thread of the server listens to a token that
only its own coordinator can make fire, since a server is given a child of it, and cancelling a child
does not reach its parent.

Main statement: `ensureRunning_first_fault`.
-/

namespace MeshControl.Harness

variable {Configuration Instance : Type}

/-! ## The signal to shut down -/

/-- Whatever a server does with its tokens, the token of its thread does not fire. -/
theorem isFired_threadToken (uses : List TokenUse) :
    (Cancellation.initial.run (handedDown ++ uses.map TokenUse.step)).isFired threadToken =
      false := by
  have strange : ∀ step ∈ handedDown ++ uses.map TokenUse.step,
      step ≠ .cancelToken threadToken ∧ ∀ coordinator, step ≠ .close coordinator := by
    intro step member
    rcases List.mem_append.mp member with handed | used
    · simp only [handedDown, List.mem_cons, List.not_mem_nil, or_false] at handed
      rcases handed with rfl | rfl <;> simp
    · rcases List.mem_map.mp used with ⟨use, -, rfl⟩
      cases use <;> simp [TokenUse.step, serverToken, threadToken]
  apply Bool.eq_false_iff.mpr
  intro fired
  rcases Cancellation.isFired_iff.mp fired with ⟨ancestor, descends, struck⟩
  -- No token is older than that of the thread, so only the coordinator could reach it.
  obtain rfl : ancestor = threadToken := Nat.le_zero.mp descends.le
  rcases struck with cancelled | ⟨coordinator, other, -, -, closed⟩
  · exact (strange _ cancelled.mem).1 rfl
  · exact (strange _ closed.mem).2 other rfl

theorem firesAt_threadToken (earlier : List TokenUse) (uses : List (Duration × TokenUse)) :
    firesAt threadToken (Cancellation.initial.run (handedDown ++ earlier.map TokenUse.step)) uses =
      none := by
  induction uses generalizing earlier with
  | nil => rfl
  | cons first later ih =>
      rcases first with ⟨time, use⟩
      have next : (Cancellation.initial.run (handedDown ++ earlier.map TokenUse.step)).step
          use.step =
          Cancellation.initial.run (handedDown ++ (earlier ++ [use]).map TokenUse.step) := by
        rw [List.map_append, ← List.append_assoc, List.map_singleton, Cancellation.run_concat]
      rw [firesAt, next, isFired_threadToken, ih]
      rfl

theorem calledOff_eq_none (managed : ManagedServer Configuration Instance) (server : Instance) :
    calledOff managed server = none :=
  firesAt_threadToken [] (managed.tokenUses server)

/-! ## The stages -/

inductive SetUpStage where
  | workDir
  | testConfiguration
  | overrides
  | pollerSettings
  | client
  | thread
  | runtime
  | build
  | start
  | resolve (listener : Listener)
  | readiness
deriving DecidableEq

namespace SetUpStage

/-- The stages up to the configuration of the caller. -/
def configuring : List SetUpStage := [workDir, testConfiguration, overrides]

/-- The stages up to the thread. -/
def launching : List SetUpStage := configuring ++ [pollerSettings, client, thread]

/-- The stages up to a server. -/
def building : List SetUpStage := launching ++ [runtime, build]

/-- What is asked of a server. -/
def serving : List SetUpStage := start :: Listener.all.map resolve ++ [readiness]

def all : List SetUpStage := building ++ serving

end SetUpStage

/-- How a call ends that gets no server. -/
inductive Failure where
  | failed (error : HarnessError)
  | panicked (text : String)
deriving DecidableEq

def Outcome.failure? {α : Type} : Outcome α → Option Failure
  | .done _ => none
  | .failed error => some (.failed error)
  | .panicked text => some (.panicked text)

/-- What a reaction on the thread of the server is reported as, if it is not what was asked for. -/
def Reaction.error? {α : Type} (refusal : String → HarnessError) : Reaction α → Option HarnessError
  | .done _ => none
  | .refused text => some (refusal text)
  | .died _ => some .died

theorem Reaction.of_error? {α : Type} {refusal : String → HarnessError} {reaction : Reaction α}
    {error : HarnessError} (found : reaction.error? refusal = some error) :
    (∃ text, error = refusal text) ∨ error = .died := by
  cases reaction with
  | done value => cases found
  | refused text =>
      cases found
      exact .inl ⟨text, rfl⟩
  | died text =>
      cases found
      exact .inr rfl

/-- What is wrong with the address of a listener. -/
def addressFault (managed : ManagedServer Configuration Instance) (server : Instance)
    (listener : Listener) : Option HarnessError :=
  match managed.address server listener with
  | none => some .died
  | some none => some (.addressFormat listener "" .notBound)
  | some (some bound) =>
    (errorOf (Endpoint.ofBound bound.toList)).map (.addressFormat listener bound)

/-- The URL under which the readiness of a server is probed. -/
def probedUrl (managed : ManagedServer Configuration Instance) (server : Instance)
    (probePath : String) : Option String := do
  let bound ← (managed.address server .http).join
  let endpoint ← (Endpoint.ofBound bound.toList).toOption
  return endpoint.url ++ probePath

/-- A server that is not ready within the time allowed for it. -/
def readinessFault (settings : Settings) (managed : ManagedServer Configuration Instance)
    (server : Instance) : Option HarnessError := do
  let poller ← (Poller.ofSettings settings).toOption
  let url ← probedUrl managed server settings.probePath
  if poller.wait (managed.replies server url) none = .ready then none
  else some (.readinessTimeout url settings.maxWait)

section

variable (settings : Settings) (circumstances : Circumstances Configuration Instance)
  (overrides : List (Override Configuration))

/-- The test configuration, with the overrides of the caller. -/
def configured : Option Configuration := do
  let base ← (circumstances.managed.testConfiguration settings.listenAddresses).value?
  (overridden overrides base).toOption

def built : Option Instance := do
  let configuration ← configured settings circumstances overrides
  (circumstances.managed.build configuration).value?

def running : Option Instance := do
  let server ← built settings circumstances overrides
  (circumstances.managed.start server).value?

/-- What a stage fails on. A stage that works on what an earlier one has made finds nothing to fail on
if it was not made. -/
def faultAt : SetUpStage → Option Failure
  | .workDir => circumstances.noWorkDir.map fun cause => .failed (.configuration (.noWorkDir cause))
  | .testConfiguration =>
    match circumstances.managed.testConfiguration settings.listenAddresses with
    | .done _ => none
    | .refused text => some (.failed (.configuration (.refused text)))
    | .died text => some (.panicked text)
  | .overrides => do
    let base ← (circumstances.managed.testConfiguration settings.listenAddresses).value?
    (errorOf (overridden overrides base)).map .panicked
  | .pollerSettings =>
    (errorOf (Poller.ofSettings settings)).map fun fault => .failed (.configuration fault)
  | .client =>
    circumstances.noClient.map fun reason => .failed (.configuration (.noClient reason))
  | .thread => circumstances.noThread.map fun cause => .failed (.threadLost cause)
  | .runtime => circumstances.noRuntime.map fun cause => .failed (.threadLost cause)
  | .build => do
    let configuration ← configured settings circumstances overrides
    ((circumstances.managed.build configuration).error?
      fun text => .configuration (.refused text)).map .failed
  | .start => do
    let server ← built settings circumstances overrides
    ((circumstances.managed.start server).error? .start).map .failed
  | .resolve listener => do
    let server ← running settings circumstances overrides
    (addressFault circumstances.managed server listener).map .failed
  | .readiness => do
    let server ← running settings circumstances overrides
    (readinessFault settings circumstances.managed server).map .failed

/-- The fault of the first of some stages that finds one. -/
def firstFault (stages : List SetUpStage) : Option Failure :=
  stages.findSome? (faultAt settings circumstances overrides)

end

/-! ## Addresses -/

/-- What comes of asking a server for something, if it may die of the question. -/
def answered {α : Type} (question : ExceptT HarnessError Option α) : Except HarnessError α :=
  question.run.getD (.error .died)

theorem answered_bind {α β : Type} (question : ExceptT HarnessError Option α)
    (next : α → ExceptT HarnessError Option β) :
    answered (question >>= next) = answered question >>= fun value => answered (next value) := by
  unfold answered
  rw [ExceptT.run_bind]
  cases question.run with
  | none => rfl
  | some result => cases result <;> rfl

/-- The endpoint of one listener. -/
def published? (managed : ManagedServer Configuration Instance) (server : Instance)
    (listener : Listener) : Except HarnessError Endpoint :=
  answered (ExceptT.mk (Endpoints.resolveOne listener <$> managed.address server listener))

theorem publish_eq (managed : ManagedServer Configuration Instance) (server : Instance) :
    publish managed server = PerListener.forListeners (published? managed server) := by
  have whole : publish managed server = answered (PerListener.forListeners fun listener =>
      ExceptT.mk (Endpoints.resolveOne listener <$> managed.address server listener)) := by
    unfold publish answered Endpoints.resolve
    split <;> simp_all
  rw [whole]
  simp only [PerListener.forListeners, answered_bind]
  rfl

theorem errorOf_published? (managed : ManagedServer Configuration Instance) (server : Instance)
    (listener : Listener) :
    errorOf (published? managed server listener) = addressFault managed server listener := by
  unfold published? addressFault answered
  cases managed.address server listener with
  | none => rfl
  | some report =>
      cases report with
      | none => rfl
      | some bound =>
          exact errorOf_mapError (HarnessError.addressFormat listener bound) _

theorem errorOf_forListeners {ε α : Type} (result : Listener → Except ε α) :
    errorOf (PerListener.forListeners result) =
      Listener.all.findSome? fun listener => errorOf (result listener) := by
  simp only [PerListener.forListeners, Listener.all, List.findSome?_cons, List.findSome?_nil]
  cases result .http with
  | error error => rfl
  | ok http =>
      cases result .grpc with
      | error error => rfl
      | ok grpc => cases result .secureGrpc <;> rfl

theorem errorOf_publish (managed : ManagedServer Configuration Instance) (server : Instance) :
    errorOf (publish managed server) = Listener.all.findSome? (addressFault managed server) := by
  rw [publish_eq, errorOf_forListeners]
  simp only [errorOf_published?]

theorem published?_eq_ok {managed : ManagedServer Configuration Instance} {server : Instance}
    {listener : Listener} {endpoint : Endpoint}
    (published : published? managed server listener = .ok endpoint) :
    ∃ bound, managed.address server listener = some (some bound) ∧
      Endpoint.ofBound bound.toList = .ok endpoint := by
  unfold published? answered at published
  cases reported : managed.address server listener with
  | none =>
      rw [reported] at published
      cases published
  | some report =>
      rw [reported] at published
      cases report with
      | none => cases published
      | some bound => exact ⟨bound, rfl, Endpoint.resolve_eq_ok_iff.mp published⟩

/-- Where everything is published, HTTP is. -/
theorem probedUrl_of_publish {managed : ManagedServer Configuration Instance} {server : Instance}
    {endpoints : Endpoints} (published : publish managed server = .ok endpoints)
    (probePath : String) :
    probedUrl managed server probePath = some (endpoints.http.url ++ probePath) := by
  rw [publish_eq] at published
  rcases Server.exists_of_bind_ok published with ⟨http, resolved, rest⟩
  rcases Server.exists_of_bind_ok rest with ⟨grpc, -, rest⟩
  rcases Server.exists_of_bind_ok rest with ⟨secureGrpc, -, same⟩
  cases same
  rcases published?_eq_ok resolved with ⟨bound, reported, read⟩
  simp [probedUrl, reported, read, Except.toOption]

/-! ## Readiness -/

theorem errorOf_awaitReady {settings : Settings} {poller : Poller}
    (polled : Poller.ofSettings settings = .ok poller)
    {managed : ManagedServer Configuration Instance} {server : Instance} {endpoints : Endpoints}
    (published : publish managed server = .ok endpoints) :
    errorOf (awaitReady managed poller settings.probePath server endpoints) =
      readinessFault settings managed server := by
  have url := probedUrl_of_publish published settings.probePath
  have allowed : poller.maxWait = settings.maxWait := (Poller.new_eq_ok_iff.mp polled).2.1
  simp only [awaitReady, calledOff_eq_none, readinessFault, polled, url, Except.toOption,
    Option.bind_eq_bind, Option.bind_some, allowed]
  cases waited : poller.wait (managed.replies server (endpoints.http.url ++ settings.probePath))
      none with
  | ready => rfl
  | timedOut => rfl
  | cancelled => exact absurd waited Poller.wait_none_ne_cancelled

/-! ## Stages in order -/

section

variable {settings : Settings} {circumstances : Circumstances Configuration Instance}
  {overrides : List (Override Configuration)}

theorem firstFault_cons (stage : SetUpStage) (stages : List SetUpStage) :
    firstFault settings circumstances overrides (stage :: stages) =
      (faultAt settings circumstances overrides stage).or
        (firstFault settings circumstances overrides stages) := by
  rw [firstFault, List.findSome?_cons]
  cases faultAt settings circumstances overrides stage <;> rfl

theorem firstFault_append (earlier later : List SetUpStage) :
    firstFault settings circumstances overrides (earlier ++ later) =
      (firstFault settings circumstances overrides earlier).or
        (firstFault settings circumstances overrides later) :=
  List.findSome?_append

/-- A server that was made is started, asked for its addresses, and then for its readiness. -/
theorem firstFault_serving {server : Instance}
    (made : built settings circumstances overrides = some server) {poller : Poller}
    (polled : Poller.ofSettings settings = .ok poller) :
    firstFault settings circumstances overrides SetUpStage.serving =
      (errorOf (startAndWait circumstances.managed poller settings.probePath server)).map
        .failed := by
  rw [SetUpStage.serving, List.cons_append, firstFault_cons, firstFault_append]
  unfold startAndWait
  cases reaction : circumstances.managed.start server with
  | died text => simp [faultAt, made, reaction, Reaction.error?, errorOf]
  | refused text => simp [faultAt, made, reaction, Reaction.error?, errorOf]
  | done served =>
      have runs : running settings circumstances overrides = some served := by
        simp [running, made, reaction, Reaction.value?]
      have starts : faultAt settings circumstances overrides .start = none := by
        simp [faultAt, made, reaction, Reaction.error?]
      have addresses :
          firstFault settings circumstances overrides (Listener.all.map .resolve) =
            (errorOf (publish circumstances.managed served)).map .failed := by
        rw [errorOf_publish, List.map_findSome?, firstFault, List.findSome?_map]
        congr 1
        funext listener
        simp [faultAt, runs]
      have waits : firstFault settings circumstances overrides [.readiness] =
          (readinessFault settings circumstances.managed served).map .failed := by
        simp [firstFault, faultAt, runs]
      rw [starts, addresses, waits, Option.none_or]
      cases published : publish circumstances.managed served with
      | error error =>
          simp only [published]
          rfl
      | ok endpoints =>
          rw [← errorOf_awaitReady polled published]
          simp only [published, errorOf_bind]
          cases awaitReady circumstances.managed poller settings.probePath served endpoints <;> rfl

end

/-! ## Attempts -/

open SetUpStage in
/-- An attempt ends as the faults of its stages have it, and goes as far as they let it. -/
structure Attempt.Follows (result : Attempt Instance) (settings : Settings)
    (circumstances : Circumstances Configuration Instance)
    (overrides : List (Override Configuration)) : Prop where
  outcome : result.outcome.failure? = firstFault settings circumstances overrides all
  applied : firstFault settings circumstances overrides configuring = none →
    result.applied = overrides.length
  launched : result.launched = true ↔
    firstFault settings circumstances overrides launching = none
  started : result.started.isSome = true ↔
    firstFault settings circumstances overrides building = none

section

variable {settings : Settings} {circumstances : Circumstances Configuration Instance}
  {overrides : List (Override Configuration)}

open SetUpStage

theorem Attempt.early_follows {applied : Nat} {outcome : Outcome (Instance × Endpoints)}
    {failure : Failure}
    (fault : firstFault settings circumstances overrides launching = some failure)
    (ends : outcome.failure? = some failure)
    (counted : firstFault settings circumstances overrides configuring = none →
      applied = overrides.length) :
    (Attempt.early applied outcome).Follows settings circumstances overrides where
  outcome := by
    rw [all, building, firstFault_append, firstFault_append, fault]
    exact ends
  applied := counted
  launched := by simp [Attempt.early, fault]
  started := by simp [Attempt.early, building, firstFault_append, fault]

theorem launch_follows {configuration : Configuration} {poller : Poller}
    (clear : firstFault settings circumstances overrides launching = none)
    (reached : configured settings circumstances overrides = some configuration)
    (polled : Poller.ofSettings settings = .ok poller) :
    (launch circumstances poller settings.probePath overrides.length configuration).Follows
      settings circumstances overrides := by
  have making : firstFault settings circumstances overrides building =
      (circumstances.noRuntime.map fun cause => .failed (.threadLost cause)).or
        (((circumstances.managed.build configuration).error?
          fun text => .configuration (.refused text)).map .failed) := by
    rw [building, firstFault_append, clear, Option.none_or, firstFault_cons, firstFault_cons]
    simp [faultAt, reached, firstFault]
  have whole : firstFault settings circumstances overrides all =
      (firstFault settings circumstances overrides building).or
        (firstFault settings circumstances overrides serving) := firstFault_append _ _
  unfold launch
  cases room : circumstances.noRuntime with
  | some cause =>
      rw [room] at making
      constructor <;> simp [whole, making, clear, Outcome.failure?]
  | none =>
      cases reaction : circumstances.managed.build configuration with
      | died text =>
          rw [room, reaction] at making
          constructor <;> simp [whole, making, clear, Reaction.error?, Outcome.failure?]
      | refused text =>
          rw [room, reaction] at making
          constructor <;> simp [whole, making, clear, Reaction.error?, Outcome.failure?]
      | done server =>
          rw [room, reaction] at making
          have made : built settings circumstances overrides = some server := by
            simp [built, reached, reaction, Reaction.value?]
          have served := firstFault_serving made polled
          cases awaited : startAndWait circumstances.managed poller settings.probePath server with
          | error error =>
              rw [awaited] at served
              simp only [awaited]
              constructor <;>
                simp [whole, making, clear, served, errorOf, Reaction.error?, Outcome.failure?]
          | ok result =>
              rw [awaited] at served
              simp only [awaited]
              constructor <;>
                simp [whole, making, clear, served, errorOf, Reaction.error?, Outcome.failure?]

theorem attempt_follows (settings : Settings)
    (circumstances : Circumstances Configuration Instance)
    (overrides : List (Override Configuration)) :
    (attempt settings circumstances overrides).Follows settings circumstances overrides := by
  have launches : firstFault settings circumstances overrides launching =
      (firstFault settings circumstances overrides configuring).or
        (((errorOf (Poller.ofSettings settings)).map fun fault => .failed (.configuration fault)).or
          ((circumstances.noClient.map fun reason =>
              .failed (.configuration (.noClient reason))).or
            (circumstances.noThread.map fun cause => .failed (.threadLost cause)))) := by
    rw [launching, firstFault_append, firstFault_cons, firstFault_cons, firstFault_cons]
    simp [faultAt, firstFault]
  -- The attempt ends with a fault of the stages up to the configuration.
  have ends {failure : Failure} {applied : Nat} {outcome : Outcome (Instance × Endpoints)}
      (fault : firstFault settings circumstances overrides configuring = some failure)
      (same : outcome.failure? = some failure) :
      (Attempt.early applied outcome).Follows settings circumstances overrides := by
    refine Attempt.early_follows ?_ same fun clear => ?_
    · rw [launches, fault, Option.some_or]
    · rw [fault] at clear
      cases clear
  unfold attempt
  cases room : circumstances.noWorkDir with
  | some cause =>
      refine ends ?_ rfl
      simp [firstFault, configuring, faultAt, room]
  | none =>
      cases tested : circumstances.managed.testConfiguration settings.listenAddresses with
      | died text =>
          refine ends ?_ rfl
          simp [firstFault, configuring, faultAt, room, tested]
      | refused text =>
          refine ends ?_ rfl
          simp [firstFault, configuring, faultAt, room, tested]
      | done base =>
          rcases applyOverrides_cases overrides base with ⟨count, text, failed, begun⟩ |
            ⟨configuration, applied, begun⟩
          · simp only [begun]
            refine ends ?_ rfl
            simp [firstFault, configuring, faultAt, room, tested, Reaction.value?, failed, errorOf]
          · have clear : firstFault settings circumstances overrides configuring = none := by
              simp [firstFault, configuring, faultAt, room, tested, Reaction.value?, applied,
                errorOf]
            have reached : configured settings circumstances overrides = some configuration := by
              simp [configured, tested, Reaction.value?, applied, Except.toOption]
            rw [clear, Option.none_or] at launches
            simp only [begun]
            cases polled : Poller.ofSettings settings with
            | error fault =>
                rw [polled] at launches
                exact Attempt.early_follows launches rfl fun _ => rfl
            | ok poller =>
                rw [polled] at launches
                cases client : circumstances.noClient with
                | some reason =>
                    rw [client] at launches
                    exact Attempt.early_follows launches rfl fun _ => rfl
                | none =>
                    rw [client] at launches
                    cases thread : circumstances.noThread with
                    | some cause =>
                        rw [thread] at launches
                        exact Attempt.early_follows launches rfl fun _ => rfl
                    | none =>
                        rw [thread] at launches
                        exact launch_follows launches reached polled

/-- No stage fails on the signal to shut down. -/
theorem faultAt_ne_shutdownSignal (stage : SetUpStage) (text : String) :
    faultAt settings circumstances overrides stage ≠ some (.failed (.shutdownSignal text)) := by
  intro fault
  cases stage with
  | workDir =>
      rcases Option.map_eq_some_iff.mp fault with ⟨cause, -, same⟩
      cases same
  | testConfiguration =>
      simp only [faultAt] at fault
      split at fault <;> cases fault
  | overrides =>
      rcases Option.bind_eq_some_iff.mp fault with ⟨base, -, fault⟩
      rcases Option.map_eq_some_iff.mp fault with ⟨text, -, same⟩
      cases same
  | pollerSettings =>
      rcases Option.map_eq_some_iff.mp fault with ⟨cause, -, same⟩
      cases same
  | client =>
      rcases Option.map_eq_some_iff.mp fault with ⟨reason, -, same⟩
      cases same
  | thread =>
      rcases Option.map_eq_some_iff.mp fault with ⟨cause, -, same⟩
      cases same
  | runtime =>
      rcases Option.map_eq_some_iff.mp fault with ⟨cause, -, same⟩
      cases same
  | build =>
      rcases Option.bind_eq_some_iff.mp fault with ⟨configuration, -, fault⟩
      rcases Option.map_eq_some_iff.mp fault with ⟨error, found, same⟩
      cases same
      rcases Reaction.of_error? found with ⟨text, same⟩ | same <;> cases same
  | start =>
      rcases Option.bind_eq_some_iff.mp fault with ⟨server, -, fault⟩
      rcases Option.map_eq_some_iff.mp fault with ⟨error, found, same⟩
      cases same
      rcases Reaction.of_error? found with ⟨text, same⟩ | same <;> cases same
  | resolve listener =>
      rcases Option.bind_eq_some_iff.mp fault with ⟨server, -, fault⟩
      rcases Option.map_eq_some_iff.mp fault with ⟨error, found, same⟩
      cases same
      unfold addressFault at found
      split at found
      · cases found
      · cases found
      · rcases Option.map_eq_some_iff.mp found with ⟨cause, -, same⟩
        cases same
  | readiness =>
      rcases Option.bind_eq_some_iff.mp fault with ⟨server, -, fault⟩
      rcases Option.map_eq_some_iff.mp fault with ⟨error, found, same⟩
      cases same
      rcases Option.bind_eq_some_iff.mp found with ⟨poller, -, found⟩
      rcases Option.bind_eq_some_iff.mp found with ⟨url, -, found⟩
      split_ifs at found
      cases found

end

/-! ## Calls -/

theorem failure?_bringUp (harness : Harness Instance)
    (circumstances : Circumstances Configuration Instance)
    (overrides : List (Override Configuration)) :
    (harness.bringUp circumstances overrides).1.failure? =
      (attempt harness.settings circumstances overrides).outcome.failure? := by
  rcases harness.bringUp_cases circumstances overrides with
    ⟨server, endpoints, outcome, _, ended⟩ | ⟨error, outcome, _, ended⟩ |
      ⟨error, outcome, _, ended⟩ | ⟨text, outcome, _, ended⟩ <;>
    rw [ended, outcome] <;> rfl

theorem Outcome.failure?_eq_none {α : Type} {outcome : Outcome α} :
    outcome.failure? = none ↔ ∃ value, outcome = .done value := by
  cases outcome <;> simp [Outcome.failure?]

/-- A call that is to bring up a server reports the fault of the first stage that finds one, and has a
server if none does. It is never told to shut down. The overrides are applied, the thread is made and
the server is told to start if no stage up to there finds a fault. -/
theorem ensureRunning_first_fault {harness : Harness Instance} (starting : harness.reusable = none)
    (circumstances : Circumstances Configuration Instance)
    (overrides : List (Override Configuration)) :
    (harness.ensureRunning circumstances overrides).1.failure? =
        firstFault harness.settings circumstances overrides SetUpStage.all ∧
      ((∃ published, (harness.ensureRunning circumstances overrides).1 = .done published) ↔
        ∀ stage ∈ SetUpStage.all,
          faultAt harness.settings circumstances overrides stage = none) ∧
      (∀ text, (harness.ensureRunning circumstances overrides).1 ≠
        .failed (.shutdownSignal text)) ∧
      ∃ record, (harness.ensureRunning circumstances overrides).2.records =
          harness.records ++ [record] ∧
        (firstFault harness.settings circumstances overrides SetUpStage.configuring = none →
          record.applied = overrides.length) ∧
        (record.launched = true ↔
          firstFault harness.settings circumstances overrides SetUpStage.launching = none) ∧
        (record.started.isSome = true ↔
          firstFault harness.settings circumstances overrides SetUpStage.building = none) := by
  have follows := attempt_follows harness.settings circumstances overrides
  have brought : harness.ensureRunning circumstances overrides =
      harness.withdraw.bringUp circumstances overrides := by
    rw [ensureRunning, starting]
  have reported : (harness.ensureRunning circumstances overrides).1.failure? =
      firstFault harness.settings circumstances overrides SetUpStage.all := by
    rw [brought, failure?_bringUp, settings_withdraw, follows.outcome]
  refine ⟨reported, ?_, ?_, ?_⟩
  · rw [← Outcome.failure?_eq_none, reported, firstFault, List.findSome?_eq_none_iff]
  · intro text signalled
    rw [signalled] at reported
    rcases List.exists_of_findSome?_eq_some reported.symm with ⟨stage, -, fault⟩
    exact faultAt_ne_shutdownSignal stage text fault
  · rw [brought, records_bringUp, records_afterAttempt, settings_withdraw, records_withdraw]
    exact ⟨_, rfl, follows.applied, follows.launched, follows.started⟩

/-- A server that cancels its own token, is never ready, has no gRPC port to report, and dies when it is
asked for its last address. -/
def ailing : ManagedServer Unit Unit where
  testConfiguration _ := .done ()
  build _ := .done ()
  start _ := .done ()
  address _ listener :=
    match listener with
    | .http => some (some "127.0.0.1:8080")
    | .grpc => some (some "[::1]")
    | .secureGrpc => none
  replies _ _ _ := .silent
  tokenUses _ := [(⟨0⟩, .cancel 0)]

/-- The gRPC address is what the caller hears of. -/
theorem ensureRunning_first_fault_ailing :
    (new .default : Harness Unit).reusable = none ∧
      ((new .default : Harness Unit).ensureRunning ⟨ailing, none, none, none, none⟩ []).1.failure? =
        some (.failed (.addressFormat .grpc "[::1]" .missingPort)) := by
  have starting : (new .default : Harness Unit).reusable = none := rfl
  refine ⟨starting, ?_⟩
  rw [(ensureRunning_first_fault starting ⟨ailing, none, none, none, none⟩ []).1]
  decide

end MeshControl.Harness
