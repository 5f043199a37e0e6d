import MeshControl.Log.Filter
import MeshControl.Server.Start

/-!
The start-up of a control plane as a program: what it logs, and how it fails.

The configuration is loaded, a server is built from it and started. Each stage that fails ends the
start-up; the error is logged, written to the error output and made the exit status.
-/

namespace MeshControl

inductive StartupError where
  | load (error : ConfigError)
  | build (error : ServerError)
  | start (error : ServerError)
deriving DecidableEq

namespace StartupError

def inspect : StartupError → String
  | load error => error.inspect
  | build error => error.inspect
  | start error => error.inspect

/-- What is written to the error output. -/
def report (error : StartupError) : String :=
  "Error: " ++ error.inspect ++ "\n"

end StartupError

/-- What a start-up logs, and what it ends with. -/
structure Startup where
  events : List Log.Event
  result : Except StartupError Server

namespace Startup

/-! ## Events -/

/-- The names under which the program and its server log. -/
def programTarget : String := "control_plane"
def serverTarget : String := "control_plane::server"

def starting : Log.Event :=
  ⟨.info, programTarget, "Starting Control Plane", []⟩

def notLoaded (error : ConfigError) : Log.Event :=
  ⟨.error, programTarget, "Failed to load configuration: " ++ error.message, []⟩

def loaded (config : Config) : Log.Event :=
  ⟨.info, programTarget, "Configuration loaded successfully",
    [("namespace", config.namespaceName),
      ("http_bind_address", config.bindAddress.http),
      ("grpc_bind_address", config.bindAddress.grpc),
      ("secure_grpc_bind_address", config.bindAddress.secureGrpc),
      ("cert_dir", config.certDir),
      ("refresh_delay_ms", Text.decimalText config.refreshDelayMs)]⟩

def invalid (error : ServerError) : Log.Event :=
  ⟨.error, programTarget, "Invalid configuration", [("error", error.message)]⟩

/-- What the server logs of its own before a start fails. -/
def startDetails : ServerError → List Log.Event
  | .bind listener address cause =>
    [⟨.error, serverTarget, "Failed to bind " ++ listener.title ++ " listener",
      [("error", cause.message), ("addr", address)]⟩]
  | _ => []

def notStarted (error : ServerError) : Log.Event :=
  ⟨.error, programTarget, "Failed to start control plane", [("error", error.message)]⟩

/-! ## Running -/

/-- Start a control plane with the configuration of the variables. -/
def run (environment : Variables) (surroundings : Surroundings) : Startup :=
  match Config.ofVariables environment with
  | .error error => ⟨[starting, notLoaded error], .error (.load error)⟩
  | .ok config =>
    match Server.new surroundings.files config with
    | .error error => ⟨[starting, loaded config, invalid error], .error (.build error)⟩
    | .ok server =>
      match server.start surroundings with
      | .error error =>
        ⟨[starting, loaded config] ++ startDetails error ++ [notStarted error],
          .error (.start error)⟩
      | .ok server => ⟨[starting, loaded config], .ok server⟩

def exitCode (startup : Startup) : Nat :=
  match startup.result with
  | .ok _ => 0
  | .error _ => 1

def errorOutput (startup : Startup) : String :=
  match startup.result with
  | .ok _ => ""
  | .error error => error.report

/-! ## Logging -/

/-- The variable that holds the filter of the log. -/
def filterKey : String := "RUST_LOG"

/-- The filter in force if none can be read. -/
def defaultFilter : Log.Filter :=
  ⟨[⟨programTarget.toList, false, none, Log.Level.debug.rank⟩,
    ⟨"tower_http".toList, false, none, Log.Level.debug.rank⟩]⟩

/-- The filter of the log: the one of the variable, or else the default. -/
def filterOf (environment : Variables) : Log.Filter :=
  ((environment filterKey).bind Log.Filter.read).getD defaultFilter

/-- The lines of the log that a filter lets through. -/
def logLines (startup : Startup) (filter : Log.Filter) : List String :=
  (startup.events.filter filter.admits).flatMap Log.Event.lines

end Startup

end MeshControl
