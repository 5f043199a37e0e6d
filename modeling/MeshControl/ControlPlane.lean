import MeshControl.ConfigFiles
import MeshControl.Health
import MeshControl.Registry

/-!
The state that the pages of a control plane show and that its sync task changes.

A pass over the configuration files counts them. A directory that cannot be read keeps the count
of the pass before it, and the pass is counted all the same, so the pages show both how often the
task looked and what it last saw.
-/

namespace MeshControl

/-- How many passes there were, and how many configuration files the last readable one found. That
counters of 64 bits would run over at some time is left out. -/
structure SyncCounters where
  syncs : Nat
  resources : Nat
deriving DecidableEq

def SyncCounters.zero : SyncCounters := ⟨0, 0⟩

def SyncCounters.toJson (counters : SyncCounters) : Json :=
  .record [("syncs", .number counters.syncs), ("resources", .number counters.resources)]

/-- A control plane: what it was built from, and what its tasks report. -/
structure ControlPlane where
  config : Config
  registry : ServiceRegistry
  health : Health
  counters : SyncCounters
deriving DecidableEq

namespace ControlPlane

/-- The control plane of a configuration, before its sync task runs. -/
def ofConfig (config : Config) : Except ConfigFault ControlPlane := do
  let registry ← ServiceRegistry.ofNames config.registries config.namespaceName
  return { config, registry, health := .initial, counters := .zero }

/-- Nothing has happened to a new control plane. -/
theorem exists_of_ofConfig {config : Config} {plane : ControlPlane}
    (planned : ofConfig config = .ok plane) :
    ∃ registry, plane = ⟨config, registry, .initial, .zero⟩ := by
  unfold ofConfig at planned
  cases found : ServiceRegistry.ofNames config.registries config.namespaceName with
  | error fault =>
      rw [found] at planned
      cases planned
  | ok registry =>
      rw [found] at planned
      cases planned
      exact ⟨registry, rfl⟩

/-- A new control plane keeps its configuration, and has counted nothing. -/
theorem ofConfig_ok {config : Config} {plane : ControlPlane}
    (planned : ofConfig config = .ok plane) :
    plane.config = config ∧ plane.counters = .zero := by
  rcases exists_of_ofConfig planned with ⟨registry, rfl⟩
  exact ⟨rfl, rfl⟩

theorem health_of_ofConfig {config : Config} {plane : ControlPlane}
    (planned : ofConfig config = .ok plane) : plane.health = .initial := by
  rcases exists_of_ofConfig planned with ⟨registry, rfl⟩
  rfl

/-- The number of configuration files that a pass reports. -/
def countResources (plane : ControlPlane) (files : FileTree) : Nat :=
  match plane.config.configDir with
  | none => 0
  | some directory =>
    match files.scan directory with
    | .ok count => count
    | .error _ => plane.counters.resources

def pass (files : FileTree) (plane : ControlPlane) : ControlPlane :=
  { plane with counters := ⟨plane.counters.syncs + 1, plane.countResources files⟩ }

def withReady (plane : ControlPlane) (ready : Bool) : ControlPlane :=
  { plane with health := { plane.health with ready } }

def withDiscovery (plane : ControlPlane) (discovery : ServingStatus) : ControlPlane :=
  { plane with health := { plane.health with discovery } }

/-- The control plane with another health. The two reports have nothing in common, so they are
written one after the other, the flag first. -/
def withHealth (plane : ControlPlane) (health : Health) : ControlPlane :=
  (plane.withReady health.ready).withDiscovery health.discovery

@[simp]
theorem health_withHealth (plane : ControlPlane) (health : Health) :
    (plane.withHealth health).health = health := rfl

@[simp]
theorem config_withHealth (plane : ControlPlane) (health : Health) :
    (plane.withHealth health).config = plane.config := rfl

@[simp]
theorem counters_withHealth (plane : ControlPlane) (health : Health) :
    (plane.withHealth health).counters = plane.counters := rfl

end ControlPlane

end MeshControl
