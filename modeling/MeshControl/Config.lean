import MeshControl.Duration
import MeshControl.Json
import MeshControl.Listener
import MeshControl.Text.Blank
import MeshControl.Text.Inspection

/-!
The configuration of a control plane, and how it is loaded from variables.

Every setting has a default, and loading looks at nine variables and no others. Only the two
numbers can be at fault here; whether a configuration makes sense is decided when a server is
built from it.
-/

namespace MeshControl

/-- The variables of a process: a value for some of the names. -/
abbrev Variables := String → Option String

structure Config where
  /-- The namespace of the services that the control plane publishes. -/
  namespaceName : String
  /-- The address that each listener is to be bound to. -/
  bindAddress : PerListener String
  /-- The directory of static configuration files; without one, none are counted. -/
  configDir : Option String
  /-- The directory of the certificate chain and the key of the secure listener. -/
  certDir : String
  /-- The names of the service registries, in the order given. -/
  registries : List String
  /-- The time between two counts of the configuration files, in milliseconds. -/
  refreshDelayMs : Nat
  /-- The size in bytes up to which gRPC messages are accepted. -/
  maxMessageSize : Nat
deriving DecidableEq

inductive ConfigError where
  /-- The value of a variable is not an unsigned number of 64 bits. -/
  | notANumber (key raw : String)
  /-- A value was refused for a reason given in words. -/
  | reported (reason : String)
deriving DecidableEq

namespace ConfigError

def reason : ConfigError → String
  | notANumber key raw => key ++ "=" ++ Text.quoted raw ++ " is not a valid number"
  | reported reason => reason

def message (error : ConfigError) : String :=
  "Invalid configuration value: " ++ error.reason

def inspect (error : ConfigError) : String :=
  Text.inspectCase "InvalidValue" (Text.quoted error.reason)

end ConfigError

namespace Config

/-! ## Loading -/

/-- The names of the variables that loading looks at. -/
def namespaceKey : String := "CP_NAMESPACE"
def bindAddressKey : PerListener String :=
  ⟨"CP_HTTP_BIND_ADDRESS", "CP_GRPC_BIND_ADDRESS", "CP_SECURE_GRPC_BIND_ADDRESS"⟩
def configDirKey : String := "CP_CONFIG_DIR"
def certDirKey : String := "CP_CERT_DIR"
def registriesKey : String := "CP_REGISTRIES"
def refreshDelayKey : String := "CP_REFRESH_DELAY_MS"
def maxMessageSizeKey : String := "CP_MAX_MESSAGE_SIZE"

def keys : List String :=
  [namespaceKey] ++ bindAddressKey.toList ++
    [configDirKey, certDirKey, registriesKey, refreshDelayKey, maxMessageSizeKey]

def defaultNamespace : String := "default"

/-- By default the listeners are open on every interface. -/
def defaultBindAddress : PerListener String :=
  ⟨"0.0.0.0:8080", "0.0.0.0:15010", "0.0.0.0:15012"⟩

def defaultCertDir : String := "/etc/certs"

def defaultRegistry : String := "Mock"

def defaultRefreshDelayMs : Nat := 1000

def defaultMaxMessageSize : Nat := 4 * 1024 * 1024

/-- The names in a list separated by commas, without the blanks around them. -/
def registryNames (list : String) : List String :=
  (Text.listedNames list.toList).map String.ofList

/-- The number in a variable, or the default if there is no such variable. -/
def readNumber (environment : Variables) (key : String) (default : Nat) :
    Except ConfigError Nat :=
  match environment key with
  | none => .ok default
  | some raw =>
    match Text.readUnsigned 18446744073709551616 raw.toList with
    | some value => .ok value.val
    | none => .error (.notANumber key raw)

/-- The configuration that the variables give. An empty configuration directory is none. -/
def ofVariables (environment : Variables) : Except ConfigError Config := do
  let refreshDelayMs ← readNumber environment refreshDelayKey defaultRefreshDelayMs
  let maxMessageSize ← readNumber environment maxMessageSizeKey defaultMaxMessageSize
  return {
    namespaceName := (environment namespaceKey).getD defaultNamespace
    bindAddress := .ofFn fun listener =>
      (environment (bindAddressKey.get listener)).getD (defaultBindAddress.get listener)
    configDir := (environment configDirKey).filter (· ≠ "")
    certDir := (environment certDirKey).getD defaultCertDir
    registries := registryNames ((environment registriesKey).getD defaultRegistry)
    refreshDelayMs := refreshDelayMs
    maxMessageSize := maxMessageSize }

def refreshDelay (config : Config) : Duration :=
  .ofMilliseconds config.refreshDelayMs

/-! ## Publishing -/

def toJson (config : Config) : Json :=
  .record [("namespace", .text config.namespaceName),
    ("http_bind_address", .text config.bindAddress.http),
    ("grpc_bind_address", .text config.bindAddress.grpc),
    ("secure_grpc_bind_address", .text config.bindAddress.secureGrpc),
    ("config_dir", .optionalText config.configDir),
    ("cert_dir", .text config.certDir),
    ("registries", .list (config.registries.map .text)),
    ("refresh_delay_ms", .number config.refreshDelayMs),
    ("max_message_size", .number config.maxMessageSize)]

def inspect (config : Config) : String :=
  Text.inspectRecord "Config" [("namespace", Text.quoted config.namespaceName),
    ("http_bind_address", Text.quoted config.bindAddress.http),
    ("grpc_bind_address", Text.quoted config.bindAddress.grpc),
    ("secure_grpc_bind_address", Text.quoted config.bindAddress.secureGrpc),
    ("config_dir", Text.inspectOption (config.configDir.map Text.quoted)),
    ("cert_dir", Text.quoted config.certDir),
    ("registries", Text.inspectList (config.registries.map Text.quoted)),
    ("refresh_delay_ms", Text.decimalText config.refreshDelayMs),
    ("max_message_size", Text.decimalText config.maxMessageSize)]

end Config

end MeshControl
