import MeshControl.Config
import MeshControl.SystemError

/-!
Why a control plane cannot be built or started.

The cases are causes; the wording of each is given once. Causes that come from outside this
library, such as a fixture that could not be written, are carried as the text they were reported
with.
-/

namespace MeshControl

inductive ConfigFault where
  /-- A variable could not be used. -/
  | invalidValue (error : ConfigError)
  /-- A bind address is not a socket address. -/
  | invalidBindAddress (listener : Listener) (address : String)
  | zeroRefreshDelay
  | zeroMaxMessageSize
  /-- The configuration directory is not there, or is something else. -/
  | missingConfigDir (path : String)
  | noRegistry
  | unsupportedRegistry (name : String)
  /-- A fault outside this library, in the words it was reported with. -/
  | reported (text : String)
deriving DecidableEq

/-- The syntax error of a socket address. -/
def socketAddressSyntax : String := "invalid socket address syntax"

def ConfigFault.message : ConfigFault → String
  | invalidValue error => error.message
  | invalidBindAddress listener address =>
    "Invalid " ++ listener.title ++ " bind address " ++ Text.quoted address ++ ": " ++
      socketAddressSyntax
  | zeroRefreshDelay => "Refresh delay must be greater than zero"
  | zeroMaxMessageSize => "Max message size must be greater than zero"
  | missingConfigDir path => "Config directory " ++ path ++ " does not exist"
  | noRegistry => "At least one service registry must be configured"
  | unsupportedRegistry name => "Unsupported service registry: " ++ name
  | reported text => text

/-- Why the secure listener has no identity. -/
inductive IdentityFault where
  /-- The certificate chain or the key could not be read. -/
  | unreadable (path : String) (error : SystemError)
  /-- Certificate and key do not make an identity. -/
  | unusable
  /-- A fault outside this library, in the words it was reported with. -/
  | reported (text : String)
deriving DecidableEq

def IdentityFault.message : IdentityFault → String
  | unreadable path error => "Failed to read " ++ path ++ ": " ++ error.message
  | unusable => "transport error"
  | reported text => text

/-- Why a control plane cannot be built or started. -/
inductive ServerError where
  | config (fault : ConfigFault)
  /-- A listener could not be bound to the address it was configured with. -/
  | bind (listener : Listener) (address : String) (cause : SystemError)
  | tls (fault : IdentityFault)
  | alreadyStarted
deriving DecidableEq

namespace ServerError

def message : ServerError → String
  | config fault => "Configuration error: " ++ fault.message
  | bind listener address cause =>
    "Failed to bind " ++ listener.title ++ " listener to " ++ address ++ ": " ++ cause.message
  | tls fault => "TLS error: " ++ fault.message
  | alreadyStarted => "Server already started"

def inspect : ServerError → String
  | config fault => Text.inspectCase "Config" (Text.quoted fault.message)
  | bind listener address cause =>
    Text.inspectRecord "Bind" [("listener", listener.inspect), ("addr", Text.quoted address),
      ("source", cause.inspect)]
  | tls fault => Text.inspectCase "Tls" (Text.quoted fault.message)
  | alreadyStarted => "AlreadyStarted"

/-- The error behind this one, if there is one. -/
def cause : ServerError → Option SystemError
  | bind _ _ cause => some cause
  | _ => none

end ServerError

end MeshControl
