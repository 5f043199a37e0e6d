import Mathlib.Data.List.Nodup
import MeshControl.Proofs.Server.Acceptance
import MeshControl.Proofs.Text.Cutting

/-!
Which services a list of registry names stands for.

The names are looked at in their order, and the first that is not supported is the fault. Of the
supported ones only the registries count that they name, so a list may be written in many ways. Two
lists are compared by what their names are read as, each name for itself.

Host names are put together from the name of a service and its namespace. Both can be told from a host
name: services of one namespace differ in front of the first dot, and behind it there is nothing but
the namespace and what is the same for all.

Main statement: `ServiceRegistry.ofNames_aggregates`.
-/

namespace MeshControl

/-! ## Names -/

namespace RegistryKind

/-- A registry can be named in either of two ways. -/
def IsSupported (name : String) : Prop :=
  name = "Mock" ∨ name = "mock"

theorem exists_ofName_iff {name : String} : (∃ kind, ofName name = .ok kind) ↔ IsSupported name := by
  rw [ofName, IsSupported]
  split
  case isTrue supported => exact iff_of_true ⟨.mock, rfl⟩ supported
  case isFalse other => exact iff_of_false (by rintro ⟨kind, ⟨⟩⟩) other

end RegistryKind

open RegistryKind (IsSupported)

/-- A name has to be supported, or else it is the fault. -/
def Requirement.named (name : String) : Requirement where
  holds := IsSupported name
  fault := .unsupportedRegistry name

theorem judges_kinds (names : List String) :
    Judges (names.mapM RegistryKind.ofName) (names.map .named) := by
  induction names with
  | nil => exact judges_ok []
  | cons name rest inductionHypothesis =>
      rw [List.mapM_cons, List.map_cons]
      have first : Judges (RegistryKind.ofName name) [.named name] := judges_ite Iff.rfl rfl
      exact first.bind fun kind _ => inductionHypothesis.thenOk (kind :: ·)

theorem judges_services (names : List String) (namespaceName : String) :
    Judges (ServiceRegistry.ofNames names namespaceName)
      (⟨names ≠ [], .noRegistry⟩ :: names.map .named) := by
  apply judges_guard
  · simp
  · exact (judges_kinds names).thenOk fun kinds =>
      ServiceRegistry.mk (kinds.eraseDups.flatMap (·.services namespaceName))

/-- The name that is at fault has only supported ones before it. -/
theorem firstBroken_named_iff {names : List String} {fault : ConfigFault} :
    FirstBroken (names.map .named) fault ↔
      ∃ front name back, names = front ++ name :: back ∧
        (∀ earlier ∈ front, IsSupported earlier) ∧ ¬ IsSupported name ∧
        fault = .unsupportedRegistry name := by
  induction names with
  | nil =>
      refine iff_of_false id ?_
      rintro ⟨front, name, back, whole, -⟩
      exact List.append_ne_nil_of_right_ne_nil _ (List.cons_ne_nil _ _) whole.symm
  | cons first rest inductionHypothesis =>
      rw [List.map_cons, FirstBroken, inductionHypothesis]
      constructor
      · rintro (⟨unsupported, rfl⟩ | ⟨held, front, name, back, rfl, earlier, unsupported, rfl⟩)
        · exact ⟨[], first, rest, rfl, List.forall_mem_nil _, unsupported, rfl⟩
        · exact ⟨first :: front, name, back, rfl, List.forall_mem_cons.mpr ⟨held, earlier⟩,
            unsupported, rfl⟩
      · rintro ⟨front, name, back, whole, earlier, unsupported, rfl⟩
        cases front with
        | nil =>
            cases whole
            exact .inl ⟨unsupported, rfl⟩
        | cons next front =>
            cases whole
            rcases List.forall_mem_cons.mp earlier with ⟨held, earlier⟩
            exact .inr ⟨held, front, name, back, rfl, earlier, unsupported, rfl⟩

/-! ## Services -/

/-- A host name tells the service, up to the first dot, and the namespace behind it. -/
theorem Service.eq_of_hostname_eq {name other namespaceName otherNamespace : String}
    (undotted : '.' ∉ name.toList) (undotted' : '.' ∉ other.toList)
    (same : name ++ "." ++ namespaceName ++ ".svc.cluster.local" =
      other ++ "." ++ otherNamespace ++ ".svc.cluster.local") :
    name = other ∧ namespaceName = otherNamespace := by
  have shorter := (String.append_left_inj _).mp same
  have dot : ".".toList = ['.'] := by decide
  have letters := congrArg String.toList shorter
  simp only [String.toList_append, List.append_assoc, dot, List.singleton_append] at letters
  rcases Text.append_inj_of_mark undotted undotted' letters with ⟨names, namespaces⟩
  exact ⟨String.toList_inj.mp names, String.toList_inj.mp namespaces⟩

theorem undotted_of_mem_mockServiceNames {name : String} (listed : name ∈ mockServiceNames) :
    '.' ∉ name.toList := by
  have all : ∀ name ∈ mockServiceNames, '.' ∉ name.toList := by decide
  exact all name listed

namespace RegistryKind

/-- A service shows its namespace in a field and in its host name. -/
theorem exists_of_mem_services {namespaceName : String} {service : Service}
    (listed : service ∈ mock.services namespaceName) :
    service.namespaceName = namespaceName ∧ ∃ name ∈ mockServiceNames,
      service.hostname = name ++ "." ++ namespaceName ++ ".svc.cluster.local" := by
  rcases List.mem_map.mp listed with ⟨name, known, rfl⟩
  exact ⟨rfl, name, known, rfl⟩

theorem nodup_hostnames (namespaceName : String) :
    ((mock.services namespaceName).map Service.hostname).Nodup := by
  rw [services, List.map_map]
  refine List.Nodup.map_on ?_ (by decide)
  intro name listed other listed' same
  exact (Service.eq_of_hostname_eq (undotted_of_mem_mockServiceNames listed)
    (undotted_of_mem_mockServiceNames listed') same).1

/-- Services of different namespaces have different host names. -/
theorem hostname_ne_of_ne {namespaceName otherNamespace : String}
    (different : otherNamespace ≠ namespaceName) {service other : Service}
    (listed : service ∈ mock.services namespaceName)
    (listed' : other ∈ mock.services otherNamespace) : service.hostname ≠ other.hostname := by
  intro same
  rcases (exists_of_mem_services listed).2 with ⟨name, known, host⟩
  rcases (exists_of_mem_services listed').2 with ⟨name', known', host'⟩
  rw [host, host'] at same
  exact different (Service.eq_of_hostname_eq (undotted_of_mem_mockServiceNames known)
    (undotted_of_mem_mockServiceNames known') same).2.symm

end RegistryKind

namespace ServiceRegistry

theorem ofNames_of_supported {names : List String} (filled : names ≠ [])
    (supported : ∀ name ∈ names, IsSupported name) (namespaceName : String) :
    ofNames names namespaceName = .ok ⟨RegistryKind.mock.services namespaceName⟩ := by
  have passes := (judges_services names namespaceName).passes_iff.mpr
    (List.forall_mem_cons.mpr ⟨filled, List.forall_mem_map.mpr supported⟩)
  rcases passes with ⟨registry, made⟩
  rw [made, ← services_of_ofNames made]

theorem ofNames_eq_ok_iff {names : List String} {namespaceName : String}
    {registry : ServiceRegistry} :
    ofNames names namespaceName = .ok registry ↔
      names ≠ [] ∧ (∀ name ∈ names, IsSupported name) ∧
        registry = ⟨RegistryKind.mock.services namespaceName⟩ := by
  constructor
  · intro made
    have holds := (judges_services names namespaceName).passes_iff.mp ⟨registry, made⟩
    rcases List.forall_mem_cons.mp holds with ⟨filled, supported⟩
    refine ⟨filled, fun name listed => supported _ (List.mem_map_of_mem listed), ?_⟩
    rw [← services_of_ofNames made]
  · rintro ⟨filled, supported, rfl⟩
    exact ofNames_of_supported filled supported namespaceName

/-- A list whose names are read as those of another list is supported if that one is. -/
theorem supported_of_readings {names others : List String} (filled : names ≠ [])
    (supported : ∀ name ∈ names, IsSupported name)
    (alike : ∀ reading, (∃ other ∈ others, RegistryKind.ofName other = reading) ↔
      ∃ name ∈ names, RegistryKind.ofName name = reading) :
    others ≠ [] ∧ ∀ other ∈ others, IsSupported other := by
  constructor
  · rcases List.exists_mem_of_ne_nil names filled with ⟨name, listed⟩
    rcases (alike _).mpr ⟨name, listed, rfl⟩ with ⟨other, listed', -⟩
    exact List.ne_nil_of_mem listed'
  · intro other listed
    rcases (alike _).mp ⟨other, listed, rfl⟩ with ⟨name, listed', same⟩
    rcases RegistryKind.exists_ofName_iff.mpr (supported name listed') with ⟨kind, read⟩
    exact RegistryKind.exists_ofName_iff.mp ⟨kind, same.symm.trans read⟩

/-- What a list of registry names gives.

There are services exactly if the list is not empty and every name in it is supported. Otherwise an
empty list is the fault, or the first name that is not supported is, whatever comes behind it. A list
whose names are read as the same registries gives the same services, in whatever order, spelling and
number they are. The services of a list are in the namespace that was asked for, which is in their
host names as well, and no two of them have the same. Services of different namespaces have different
host names. -/
theorem ofNames_aggregates (names : List String) (namespaceName : String) :
    ((∃ registry, ofNames names namespaceName = .ok registry) ↔
      names ≠ [] ∧ ∀ name ∈ names, IsSupported name) ∧
    (∀ fault, ofNames names namespaceName = .error fault ↔
      names = [] ∧ fault = .noRegistry ∨
        ∃ front name back, names = front ++ name :: back ∧
          (∀ earlier ∈ front, IsSupported earlier) ∧ ¬ IsSupported name ∧
          fault = .unsupportedRegistry name ∧
          fault.message = "Unsupported service registry: " ++ name) ∧
    ∀ registry, ofNames names namespaceName = .ok registry →
      (∀ others : List String,
        (∀ reading, (∃ other ∈ others, RegistryKind.ofName other = reading) ↔
          ∃ name ∈ names, RegistryKind.ofName name = reading) →
        ofNames others namespaceName = .ok registry) ∧
      (registry.services.map Service.hostname).Nodup ∧
      (∀ service ∈ registry.services, service.namespaceName = namespaceName ∧
        ∃ name ∈ mockServiceNames,
          service.hostname = name ++ "." ++ namespaceName ++ ".svc.cluster.local") ∧
      ∀ others otherNamespace registry', otherNamespace ≠ namespaceName →
        ofNames others otherNamespace = .ok registry' →
          ∀ service ∈ registry.services, ∀ service' ∈ registry'.services,
            service.hostname ≠ service'.hostname := by
  refine ⟨?_, ?_, ?_⟩
  · simp only [ofNames_eq_ok_iff]
    constructor
    · rintro ⟨registry, filled, supported, -⟩
      exact ⟨filled, supported⟩
    · rintro ⟨filled, supported⟩
      exact ⟨_, filled, supported, rfl⟩
  · intro fault
    rw [(judges_services names namespaceName).fails_iff, FirstBroken, firstBroken_named_iff]
    constructor
    · rintro (⟨empty, rfl⟩ | ⟨-, front, name, back, whole, earlier, unsupported, rfl⟩)
      · exact .inl ⟨not_not.mp empty, rfl⟩
      · exact .inr ⟨front, name, back, whole, earlier, unsupported, rfl, rfl⟩
    · rintro (⟨empty, rfl⟩ | ⟨front, name, back, rfl, earlier, unsupported, rfl, -⟩)
      · exact .inl ⟨not_not.mpr empty, rfl⟩
      · have filled : front ++ name :: back ≠ [] :=
          List.append_ne_nil_of_right_ne_nil _ (List.cons_ne_nil _ _)
        exact .inr ⟨filled, front, name, back, rfl, earlier, unsupported, rfl⟩
  · intro registry made
    rcases ofNames_eq_ok_iff.mp made with ⟨filled, supported, rfl⟩
    refine ⟨?_, RegistryKind.nodup_hostnames namespaceName, ?_, ?_⟩
    · intro others alike
      rcases supported_of_readings filled supported alike with ⟨filled', supported'⟩
      exact ofNames_of_supported filled' supported' namespaceName
    · intro service listed
      exact RegistryKind.exists_of_mem_services listed
    · intro others otherNamespace registry' different made' service listed service' listed'
      rcases ofNames_eq_ok_iff.mp made' with ⟨-, -, rfl⟩
      exact RegistryKind.hostname_ne_of_ne different listed listed'

/-- The fault is the first of two, with supported names around it. -/
example : ofNames ["mock", "etcd", "Mock", "consul"] "testing" =
    .error (.unsupportedRegistry "etcd") := by decide

end ServiceRegistry

end MeshControl
