import MeshControl.ControlPlane
import MeshControl.Net.SocketAddress

/-!
Building a server from a configuration.

A configuration is checked part by part in a fixed order, and the first part that is at fault is
reported: the three addresses, the refresh delay, the message size, the directory of configuration
files, the registries. The addresses are kept as they were read, so that nothing has to be read
again when the server starts.
-/

namespace MeshControl

/-- A server: a control plane, where it is to listen, and where it does. -/
structure Server where
  plane : ControlPlane
  /-- The addresses to bind; a port of zero asks for any free one. -/
  addresses : PerListener Net.SocketAddress
  /-- The addresses bound, once the server is started. -/
  bound : Option (PerListener Net.SocketAddress)
deriving DecidableEq

namespace Server

def readAddress (config : Config) (listener : Listener) :
    Except ConfigFault Net.SocketAddress :=
  let text := config.bindAddress.get listener
  match Net.SocketAddress.ofString? text with
  | some address => .ok address
  | none => .error (.invalidBindAddress listener text)

/-- Check that the directory of configuration files is there, if one is configured. -/
def checkConfigDir (files : FileTree) : Option String → Except ConfigFault Unit
  | none => .ok ()
  | some directory =>
    if files.isDirectory directory then .ok () else .error (.missingConfigDir directory)

/-- The server of a configuration, or the first fault of it. -/
def build (files : FileTree) (config : Config) : Except ConfigFault Server := do
  let addresses ← PerListener.forListeners (readAddress config)
  if config.refreshDelayMs = 0 then
    throw .zeroRefreshDelay
  if config.maxMessageSize = 0 then
    throw .zeroMaxMessageSize
  checkConfigDir files config.configDir
  let plane ← ControlPlane.ofConfig config
  return { plane, addresses, bound := none }

/-- The server of a configuration. Nothing is bound yet. -/
def new (files : FileTree) (config : Config) : Except ServerError Server :=
  (build files config).mapError .config

/-! ## What is accepted -/

/-- A sequence of checks passes only if each of them does. -/
theorem exists_of_bind_ok {ε α β : Type} {first : Except ε α} {next : α → Except ε β}
    {result : β} (passed : first >>= next = .ok result) :
    ∃ value, first = .ok value ∧ next value = .ok result := by
  cases first with
  | error fault => cases passed
  | ok value => exact ⟨value, rfl, passed⟩

private theorem ok_of_mapError_ok {ε δ α : Type} {result : Except ε α} {change : ε → δ} {value : α}
    (passed : result.mapError change = .ok value) : result = .ok value := by
  cases result with
  | error fault => cases passed
  | ok found =>
      cases passed
      rfl

/-- A new server has the control plane of its configuration, which has a refresh delay, and has
nothing bound. -/
theorem exists_of_new {files : FileTree} {config : Config} {server : Server}
    (built : new files config = .ok server) :
    ∃ plane addresses, server = ⟨plane, addresses, none⟩ ∧
      ControlPlane.ofConfig config = .ok plane ∧ config.refreshDelayMs ≠ 0 := by
  rcases exists_of_bind_ok (ok_of_mapError_ok built) with ⟨addresses, _, checked⟩
  by_cases unlimited : config.refreshDelayMs = 0
  · rw [if_pos unlimited] at checked
    cases checked
  · rw [if_neg unlimited] at checked
    by_cases unsized : config.maxMessageSize = 0
    · rw [if_pos unsized] at checked
      cases checked
    · rw [if_neg unsized] at checked
      rcases exists_of_bind_ok checked with ⟨_, _, directoryChecked⟩
      rcases exists_of_bind_ok directoryChecked with ⟨plane, planned, made⟩
      cases made
      exact ⟨plane, addresses, rfl, planned, unlimited⟩

theorem new_ok {files : FileTree} {config : Config} {server : Server}
    (built : new files config = .ok server) :
    ControlPlane.ofConfig config = .ok server.plane ∧ config.refreshDelayMs ≠ 0 := by
  rcases exists_of_new built with ⟨plane, addresses, rfl, checked⟩
  exact checked

end Server

end MeshControl
