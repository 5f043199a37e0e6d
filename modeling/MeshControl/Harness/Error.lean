import MeshControl.Duration
import MeshControl.Listener
import MeshControl.SystemError

/-!
Why a shared test server cannot be brought up or torn down.

As elsewhere the cases are causes, each worded once. What a server under test says itself is
carried as text, because a harness runs servers of any kind.
-/

namespace MeshControl.Harness

/-- Why the address of a listener cannot be published. -/
inductive AddressFault where
  | notBound
  | missingBracket
  | missingPort
  | tooManyColons
  | invalidPort
  | zeroPort
  /-- A fault outside this library, in the words it was reported with. -/
  | reported (reason : String)
deriving DecidableEq

def AddressFault.reason : AddressFault → String
  | notBound => "listener is not bound"
  | missingBracket => "missing ']' in address"
  | missingPort => "missing port in address"
  | tooManyColons => "too many colons in address"
  | invalidPort => "invalid port"
  | zeroPort => "port 0 is not a bound port"
  | reported reason => reason

/-- The variable that pins the HTTP listener to a port. -/
def httpPortKey : String := "CONTROL_PLANE_HTTP_PORT"

/-- Why a server is not even started. -/
inductive SetupFault where
  /-- The pinned port is not a port number. -/
  | invalidPort (raw : String)
  /-- A probe could take longer than the time between two of them. -/
  | attemptTooLong (attempt interval : Duration)
  /-- There would be no time to become ready. -/
  | noBudget
  /-- There is no client to probe with, for the reason that it gives. -/
  | noClient (reason : String)
  /-- There is no directory for the fixtures of the server. -/
  | noWorkDir (cause : SystemError)
  /-- The server refused its configuration, in its own words. -/
  | refused (text : String)
deriving DecidableEq

def SetupFault.message : SetupFault → String
  | invalidPort raw => httpPortKey ++ "=" ++ Text.quoted raw ++ " is not a valid port"
  | attemptTooLong attempt interval =>
    "Probe timeout " ++ attempt.text ++ " must be shorter than poll interval " ++ interval.text
  | noBudget => "Readiness wait budget must be greater than zero"
  | noClient reason => "Failed to create HTTP client: " ++ reason
  | noWorkDir cause => "Failed to create work dir: " ++ cause.message
  | refused text => text

/-- Why a shared test server is not available. -/
inductive HarnessError where
  | configuration (fault : SetupFault)
  /-- The server was built but did not start; it says why. -/
  | start (text : String)
  /-- A listener reported an address that cannot be published. -/
  | addressFormat (listener : Listener) (address : String) (fault : AddressFault)
  /-- No probe of the address succeeded in the time allowed. -/
  | readinessTimeout (url : String) (waited : Duration)
  | shutdownSignal (text : String)
  /-- The thread that runs the server could not be made or died. -/
  | threadLost (cause : SystemError)
deriving DecidableEq

namespace HarnessError

def message : HarnessError → String
  | configuration fault => "Configuration error: " ++ fault.message
  | start text => "Server failed to start: " ++ text
  | addressFormat listener address fault =>
    "Invalid " ++ listener.title ++ " listener address " ++ Text.quoted address ++ ": " ++
      fault.reason
  | readinessTimeout url waited => "Server at " ++ url ++ " not ready after " ++ waited.text
  | shutdownSignal text => "Shutdown signal error: " ++ text
  | threadLost cause => "Harness runtime error: " ++ cause.message

def inspect : HarnessError → String
  | configuration fault => Text.inspectCase "Configuration" (Text.quoted fault.message)
  | start text => Text.inspectCase "Start" (Text.quoted text)
  | addressFormat listener address fault =>
    Text.inspectRecord "AddressFormat" [("listener", listener.inspect),
      ("addr", Text.quoted address), ("reason", Text.quoted fault.reason)]
  | readinessTimeout url waited =>
    Text.inspectRecord "ReadinessTimeout" [("url", Text.quoted url), ("waited", waited.text)]
  | shutdownSignal text => Text.inspectCase "ShutdownSignal" (Text.quoted text)
  | threadLost cause => Text.inspectCase "Runtime" cause.inspect

/-- The error behind this one, if there is one. -/
def cause : HarnessError → Option SystemError
  | threadLost cause => some cause
  | _ => none

/-- The server died while it was set up, without a word. -/
def died : HarnessError := threadLost (.custom "harness runtime exited during setup")

end HarnessError

end MeshControl.Harness
