import MeshControl.Text.Numeral

/-!
Health of a control plane, as its two health services report it.

The readiness flag is what the HTTP pages show. The gRPC health service has a status of its own
for the discovery endpoints, and answers for nothing else but the server as a whole, which is
healthy as long as it can answer.
-/

namespace MeshControl

/-- What the gRPC health service says of a service. -/
inductive ServingStatus where
  | serving
  | notServing
deriving DecidableEq

/-- Both health reports of a control plane. -/
structure Health where
  /-- Whether the readiness page says yes. -/
  ready : Bool
  /-- The status of the discovery endpoints. -/
  discovery : ServingStatus
deriving DecidableEq

/-- The name under which the discovery endpoints are registered. -/
def discoveryService : String := "controlplane.v1.Discovery"

inductive HealthAnswer where
  | status (status : ServingStatus)
  /-- There is no service of that name. -/
  | notRegistered
  /-- The request is longer than the server accepts. -/
  | tooLarge (found limit : Nat)
deriving DecidableEq

namespace HealthAnswer

def notRegisteredText : String := "service not registered"

def tooLargeText (found limit : Nat) : String :=
  "Error, decoded message length too large: found " ++ Text.decimalText found ++
    " bytes, the limit is: " ++ Text.decimalText limit ++ " bytes"

end HealthAnswer

namespace Health

def initial : Health := ⟨false, .notServing⟩

def serving : Health := ⟨true, .serving⟩

/-- The answer to a health check for a service; the empty name is the server as a whole. -/
def check (health : Health) (service : String) : HealthAnswer :=
  if service = "" then .status .serving
  else if service = discoveryService then .status health.discovery
  else .notRegistered

@[simp]
theorem check_discoveryService (health : Health) :
    health.check discoveryService = .status health.discovery := by
  have named : discoveryService ≠ "" := by decide
  simp [check, named]

/-- How many bytes the length of a text takes: seven bits go into each. -/
def lengthBytes (length : Nat) : Nat :=
  if length < 128 then 1 else 1 + lengthBytes (length / 128)

/-- The size in bytes of a request to check a service. An empty name is not sent. -/
def requestSize (service : String) : Nat :=
  if service = "" then 0
  else 1 + lengthBytes service.utf8ByteSize + service.utf8ByteSize

/-- The answer to a health check if requests may not be longer than a limit. -/
def checkWithin (health : Health) (limit : Nat) (service : String) : HealthAnswer :=
  if limit < requestSize service then .tooLarge (requestSize service) limit
  else health.check service

end Health

end MeshControl
