import MeshControl.Harness.Settings

/-!
Waiting for a server to become ready, by probing it again and again.

Listeners are open before a server has warmed up, so a successful start says nothing about
readiness. A poller waits one interval, probes, and repeats that until a probe is answered with
status 200, the time is spent, or the wait is called off. A probe never takes as long as an
interval, so probes do not overlap and their number is bounded by the time allowed.

What the probed server does is given as a function from the number of the probe to its reply. Times
are counted in nanoseconds from the beginning of the wait.
-/

namespace MeshControl.Harness

/-- What comes of one probe if nothing interrupts it. -/
inductive ProbeReply where
  /-- After some time there is a status. The body that follows takes more time to end or to fail,
  if it ever does. -/
  | answered (status : Nat) (delay : Duration) (body : Option Duration)
  /-- After some time it is clear that there is no answer. -/
  | failed (delay : Duration)
  | silent
deriving DecidableEq

/-- The reply if it takes some more time to come. -/
def ProbeReply.after (time : Duration) : ProbeReply → ProbeReply
  | answered status delay body => answered status ⟨time.nanoseconds + delay.nanoseconds⟩ body
  | failed delay => failed ⟨time.nanoseconds + delay.nanoseconds⟩
  | silent => silent

/-- How waiting for readiness ends. -/
inductive Readiness where
  | ready
  | timedOut
  | cancelled
deriving DecidableEq

/-- How readiness is polled. -/
structure Poller where
  pollInterval : Duration
  maxWait : Duration
  attemptTimeout : Duration
  /-- Each probe is over before the next one is due. -/
  attempt_lt_interval : attemptTimeout.nanoseconds < pollInterval.nanoseconds
  /-- There is some time to become ready. -/
  maxWait_pos : 0 < maxWait.nanoseconds

/-- The status of a good probe. -/
def readyStatus : Nat := 200

/-- What comes of one probe that has to be over after some time. -/
structure ProbeOutcome where
  succeeded : Bool
  took : Duration
deriving DecidableEq

/-- What comes of a probe. A status that takes too long is none; once it is there it counts,
whatever becomes of the body. -/
def ProbeReply.within (limit : Duration) : ProbeReply → ProbeOutcome
  | answered status delay body =>
    if delay.nanoseconds < limit.nanoseconds then
      ⟨status == readyStatus, match body with
        | some rest => ⟨min limit.nanoseconds (delay.nanoseconds + rest.nanoseconds)⟩
        | none => limit⟩
    else ⟨false, limit⟩
  | failed delay => ⟨false, ⟨min limit.nanoseconds delay.nanoseconds⟩⟩
  | silent => ⟨false, limit⟩

/-- One of the probes of a wait. -/
structure Probe where
  began : Nat
  /-- When the probe is over, if it is not interrupted. -/
  ended : Nat
  succeeded : Bool
deriving DecidableEq

/-- A wait for readiness that is over. -/
structure Watch where
  /-- The probes that were begun, in their order. -/
  probes : List Probe
  outcome : Readiness
  ended : Nat

namespace Poller

/-- A poller, if its settings leave room for probes. -/
def new (pollInterval maxWait attemptTimeout : Duration) : Except SetupFault Poller :=
  if attempt : attemptTimeout.nanoseconds < pollInterval.nanoseconds then
    if budget : 0 < maxWait.nanoseconds then
      .ok ⟨pollInterval, maxWait, attemptTimeout, attempt, budget⟩
    else .error .noBudget
  else .error (.attemptTooLong attemptTimeout pollInterval)

def ofSettings (settings : Settings) : Except SetupFault Poller :=
  new settings.pollInterval settings.maxWait settings.attemptTimeout

def probe (poller : Poller) (reply : ProbeReply) : Bool :=
  (reply.within poller.attemptTimeout).succeeded

/-- The time at which the wait ends if no probe succeeds, and how it then ends. -/
def deadline (poller : Poller) (calledOff : Option Duration) : Nat × Readiness :=
  match calledOff with
  | some time =>
    if time.nanoseconds < poller.maxWait.nanoseconds then (time.nanoseconds, .cancelled)
    else (poller.maxWait.nanoseconds, .timedOut)
  | none => (poller.maxWait.nanoseconds, .timedOut)

/-- The probe of a number, if the one before it was over at some time. -/
def probeAfter (poller : Poller) (replies : Nat → ProbeReply) (elapsed number : Nat) : Probe :=
  let began := elapsed + poller.pollInterval.nanoseconds
  let outcome := (replies number).within poller.attemptTimeout
  ⟨began, began + outcome.took.nanoseconds, outcome.succeeded⟩

/-- A probe takes some time, if only that before it begins. -/
theorem lt_ended_probeAfter (poller : Poller) (replies : Nat → ProbeReply) (elapsed number : Nat) :
    elapsed < (poller.probeAfter replies elapsed number).ended := by
  have := poller.attempt_lt_interval
  simp only [probeAfter]
  omega

/-- The probes that are begun before the time is up, up to the first good one, when so much time has
passed and so many probes were made. -/
def probesUntil (poller : Poller) (replies : Nat → ProbeReply) (limit elapsed number : Nat) :
    List Probe :=
  let probe := poller.probeAfter replies elapsed number
  if limit < probe.began then []
  else if limit < probe.ended then [probe]
  else if probe.succeeded then [probe]
  else probe :: probesUntil poller replies limit probe.ended (number + 1)
termination_by limit - elapsed
decreasing_by
  have := poller.lt_ended_probeAfter replies elapsed number
  grind

/-- Probe until the server is ready, the time is spent, or the wait is called off. A probe that is
not over by then does not count. -/
def watch (poller : Poller) (replies : Nat → ProbeReply) (calledOff : Option Duration) : Watch :=
  let (limit, otherwise) := poller.deadline calledOff
  let probes := poller.probesUntil replies limit 0 0
  match probes.find? fun probe => probe.succeeded && probe.ended ≤ limit with
  | some good => ⟨probes, .ready, good.ended⟩
  | none => ⟨probes, otherwise, limit⟩

def wait (poller : Poller) (replies : Nat → ProbeReply) (calledOff : Option Duration) :
    Readiness :=
  (poller.watch replies calledOff).outcome

end Poller

end MeshControl.Harness
