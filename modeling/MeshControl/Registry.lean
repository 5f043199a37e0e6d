import MeshControl.Server.Error

/-!
Service registries, and the services they publish.

Only the registry of mock services is available. It has two services, so that a client of a
control plane under test finds something. Naming a registry twice does not publish its services
twice.
-/

namespace MeshControl

inductive RegistryKind where
  | mock
deriving DecidableEq

namespace RegistryKind

/-- The registry of a name, which may be written in either of two ways. -/
def ofName (name : String) : Except ConfigFault RegistryKind :=
  if name = "Mock" ∨ name = "mock" then .ok mock else .error (.unsupportedRegistry name)

def title : RegistryKind → String
  | mock => "Mock"

end RegistryKind

structure Service where
  hostname : String
  namespaceName : String
  port : Nat
  registry : RegistryKind
deriving DecidableEq

namespace Service

def toJson (service : Service) : Json :=
  .record [("hostname", .text service.hostname), ("namespace", .text service.namespaceName),
    ("port", .number service.port), ("registry", .text service.registry.title)]

def inspect (service : Service) : String :=
  Text.inspectRecord "ServiceEntry" [("hostname", Text.quoted service.hostname),
    ("namespace", Text.quoted service.namespaceName), ("port", Text.decimalText service.port),
    ("registry", service.registry.title)]

end Service

def mockServiceNames : List String := ["hello", "world"]

/-- The services of one registry in a namespace. -/
def RegistryKind.services (namespaceName : String) : RegistryKind → List Service
  | mock => mockServiceNames.map fun name =>
    { hostname := name ++ "." ++ namespaceName ++ ".svc.cluster.local"
      namespaceName := namespaceName
      port := 80
      registry := mock }

/-- The services of all configured registries. -/
structure ServiceRegistry where
  services : List Service
deriving DecidableEq

namespace ServiceRegistry

/-- The services of the named registries. The list must not be empty, and the first name that is
not supported is the fault. -/
def ofNames (names : List String) (namespaceName : String) :
    Except ConfigFault ServiceRegistry := do
  if names.isEmpty then
    throw .noRegistry
  let kinds ← names.mapM RegistryKind.ofName
  return ⟨kinds.eraseDups.flatMap (·.services namespaceName)⟩

def toJson (registry : ServiceRegistry) : Json :=
  .list (registry.services.map Service.toJson)

def inspect (registry : ServiceRegistry) : String :=
  Text.inspectRecord "ServiceRegistry"
    [("services", Text.inspectList (registry.services.map Service.inspect))]

end ServiceRegistry

end MeshControl
