import MeshControl.Config
import MeshControl.Harness.Error
import MeshControl.Net.Ip

/-!
The settings of a harness.

Only the port of the HTTP listener comes from a variable, so that a server under test can be found
with a browser; how its readiness is polled is set by the tests themselves.
-/

namespace MeshControl.Harness

structure Settings where
  /-- The port of the HTTP listener, or zero for any free one. -/
  httpPort : Net.Port
  /-- The time between two probes. -/
  pollInterval : Duration
  /-- The time in which a server has to become ready. -/
  maxWait : Duration
  /-- The time that one probe may take. -/
  attemptTimeout : Duration
  /-- What is probed on the HTTP listener. -/
  probePath : String
deriving DecidableEq

namespace Settings

/-- The host that servers under test listen on. -/
def bindHost : String := "127.0.0.1"

def default : Settings where
  httpPort := 0
  pollInterval := .ofMilliseconds 500
  maxWait := .ofSeconds 5 0
  attemptTimeout := .ofMilliseconds 400
  probePath := "/ready"

/-- The port in a variable; none and a blank value leave the choice open. -/
def readHttpPort : Option String → Except SetupFault Net.Port
  | none => .ok 0
  | some value =>
    let raw := Text.trim value.toList
    if raw.isEmpty then .ok 0
    else
      match Text.readUnsigned 65536 raw with
      | some port => .ok port
      | none => .error (.invalidPort (String.ofList raw))

def ofVariables (environment : Variables) : Except HarnessError Settings := do
  let httpPort ← (readHttpPort (environment httpPortKey)).mapError .configuration
  return { default with httpPort }

def listenAddress (port : Nat) : String :=
  bindHost ++ ":" ++ Text.decimalText port

/-- The addresses that a server is configured with: only the port of HTTP can be pinned. -/
def listenAddresses (settings : Settings) : PerListener String :=
  ⟨listenAddress settings.httpPort.val, listenAddress 0, listenAddress 0⟩

def inspect (settings : Settings) : String :=
  Text.inspectRecord "HarnessSettings" [
    ("http_port", Text.decimalText settings.httpPort.val),
    ("poll_interval", settings.pollInterval.text), ("max_wait", settings.maxWait.text),
    ("attempt_timeout", settings.attemptTimeout.text),
    ("probe_path", Text.quoted settings.probePath)]

end Settings

end MeshControl.Harness
