import MeshControl.Proofs.Net.Grammar
import MeshControl.Proofs.Text.Trimming
import MeshControl.Server.Construction

/-!
Which configurations a server is built from, and which fault is reported otherwise.

Loading, the server and the registries each look at a part of what a configuration has to be like.
Their requirements are put down here in one list, in terms of the variables, the files and the
syntax of an address, and not of the checks. A check judges such a list if it passes where all
requirements hold and otherwise reports the first that does not. Checks one after the other judge
their lists one after the other, so that the whole order of faults comes from the order of the list.

Main statement: `Server.new_accepts`.
-/

namespace MeshControl

/-! ## Requirements -/

/-- Something that has to hold, and the fault if it does not. -/
structure Requirement where
  holds : Prop
  fault : ConfigFault

/-- The fault of the first requirement that does not hold. -/
def FirstBroken : List Requirement → ConfigFault → Prop
  | [], _ => False
  | first :: rest, fault =>
    ¬ first.holds ∧ fault = first.fault ∨ first.holds ∧ FirstBroken rest fault

/-- A check looks at requirements in their order: it passes if all of them hold, and reports the
first that does not. -/
def Judges {α : Type} (check : Except ConfigFault α) (requirements : List Requirement) : Prop :=
  match check with
  | .ok _ => ∀ requirement ∈ requirements, requirement.holds
  | .error fault => FirstBroken requirements fault

theorem FirstBroken.not_all {requirements : List Requirement} {fault : ConfigFault}
    (broken : FirstBroken requirements fault) :
    ¬ ∀ requirement ∈ requirements, requirement.holds := by
  induction requirements with
  | nil => exact broken.elim
  | cons first rest ih =>
      intro all
      rcases broken with ⟨fails, -⟩ | ⟨-, later⟩
      · exact fails (all first List.mem_cons_self)
      · exact ih later fun requirement member => all requirement (List.mem_cons_of_mem first member)

theorem FirstBroken.unique {requirements : List Requirement} {fault other : ConfigFault}
    (broken : FirstBroken requirements fault) (broken' : FirstBroken requirements other) :
    fault = other := by
  induction requirements with
  | nil => exact broken.elim
  | cons first rest ih =>
      rcases broken with ⟨fails, rfl⟩ | ⟨held, later⟩
      · rcases broken' with ⟨-, rfl⟩ | ⟨held, -⟩
        · rfl
        · exact (fails held).elim
      · rcases broken' with ⟨fails, -⟩ | ⟨-, later'⟩
        · exact (fails held).elim
        · exact ih later later'

theorem FirstBroken.append {earlier : List Requirement} {fault : ConfigFault}
    (broken : FirstBroken earlier fault) (later : List Requirement) :
    FirstBroken (earlier ++ later) fault := by
  induction earlier with
  | nil => exact broken.elim
  | cons first rest ih => exact broken.imp_right fun ⟨held, behind⟩ => ⟨held, ih behind⟩

theorem FirstBroken.behind {earlier later : List Requirement} {fault : ConfigFault}
    (all : ∀ requirement ∈ earlier, requirement.holds) (broken : FirstBroken later fault) :
    FirstBroken (earlier ++ later) fault := by
  induction earlier with
  | nil => exact broken
  | cons first rest ih =>
      rcases List.forall_mem_cons.mp all with ⟨held, others⟩
      exact .inr ⟨held, ih others⟩

section Judges

variable {α β : Type} {check : Except ConfigFault α} {requirements : List Requirement}

theorem Judges.passes_iff (judges : Judges check requirements) :
    (∃ value, check = .ok value) ↔ ∀ requirement ∈ requirements, requirement.holds := by
  cases check with
  | ok value => exact ⟨fun _ => judges, fun _ => ⟨value, rfl⟩⟩
  | error fault =>
      constructor
      · rintro ⟨value, passed⟩
        cases passed
      · intro all
        exact (FirstBroken.not_all judges all).elim

theorem Judges.fails_iff (judges : Judges check requirements) {fault : ConfigFault} :
    check = .error fault ↔ FirstBroken requirements fault := by
  cases check with
  | ok value =>
      constructor
      · intro failed
        cases failed
      · intro broken
        exact (broken.not_all judges).elim
  | error found =>
      rw [Except.error.injEq]
      constructor
      · rintro rfl
        exact judges
      · exact FirstBroken.unique judges

theorem judges_ok (value : α) : Judges (.ok value) [] :=
  List.forall_mem_nil _

/-- Checks one after the other look at their requirements one after the other. -/
theorem Judges.bind {next : α → Except ConfigFault β} {later : List Requirement}
    (judges : Judges check requirements)
    (judgesNext : ∀ value, check = .ok value → Judges (next value) later) :
    Judges (check >>= next) (requirements ++ later) := by
  cases check with
  | error fault => exact FirstBroken.append judges later
  | ok value =>
      have rest := judgesNext value rfl
      change Judges (next value) _
      cases found : next value with
      | error fault =>
          rw [found] at rest
          exact FirstBroken.behind judges rest
      | ok result =>
          rw [found] at rest
          exact List.forall_mem_append.mpr ⟨judges, rest⟩

theorem Judges.thenOk (judges : Judges check requirements) (change : α → β) :
    Judges (check >>= fun value => .ok (change value)) requirements := by
  cases check with
  | error fault => exact judges
  | ok value => exact judges

theorem Judges.cons {first : Requirement} (held : first.holds)
    (judges : Judges check requirements) : Judges check (first :: requirements) := by
  cases check with
  | error fault => exact .inr ⟨held, judges⟩
  | ok value => exact List.forall_mem_cons.mpr ⟨held, judges⟩

/-- A check that fails for one reason only. -/
theorem judges_ite {condition : Prop} [Decidable condition] {requirement : Requirement}
    {fault : ConfigFault} {value : α} (means : condition ↔ requirement.holds)
    (blames : requirement.fault = fault) :
    Judges (if condition then .ok value else .error fault) [requirement] := by
  by_cases passed : condition
  · rw [if_pos passed]
    exact List.forall_mem_singleton.mpr (means.mp passed)
  · rw [if_neg passed]
    exact .inl ⟨mt means.mpr passed, blames.symm⟩

/-- A check that comes before others. -/
theorem judges_guard {broken : Prop} [Decidable broken] {holds : Prop} {fault : ConfigFault}
    {rest : Except ConfigFault α} (means : holds ↔ ¬ broken) (judges : Judges rest requirements) :
    Judges (if broken then throw fault else rest) (⟨holds, fault⟩ :: requirements) := by
  by_cases failed : broken
  · rw [if_pos failed]
    exact .inl ⟨fun held => means.mp held failed, rfl⟩
  · rw [if_neg failed]
    exact judges.cons (means.mpr failed)

end Judges

/-! ## The requirements of a configuration -/

/-- The items of the list of registries, with their blanks. -/
def registryItems (environment : Variables) : List (List Char) :=
  ((environment Config.registriesKey).getD "Mock").toList.splitOn ','

def Requirement.address (config : Config) (listener : Listener) : Requirement where
  holds := Net.IsSocketAddress (config.bindAddress.get listener).toList
  fault := .invalidBindAddress listener (config.bindAddress.get listener)

def Requirement.directory (files : FileTree) (environment : Variables) : Requirement where
  holds := ∀ directory, environment Config.configDirKey = some directory → directory ≠ "" →
    files.isDirectory directory = true
  fault := .missingConfigDir ((environment Config.configDirKey).getD "")

def Requirement.supported (item : List Char) : Requirement where
  holds := Text.AllBlank item ∨
    Text.IsPadded "Mock".toList item ∨ Text.IsPadded "mock".toList item
  fault := .unsupportedRegistry (String.ofList (Text.trim item))

/-- What has to hold for a server to be built, in the order in which it is looked at. -/
def requirements (files : FileTree) (environment : Variables) (config : Config) :
    List Requirement :=
  [.address config .http, .address config .grpc, .address config .secureGrpc,
    ⟨config.refreshDelayMs ≠ 0, .zeroRefreshDelay⟩,
    ⟨config.maxMessageSize ≠ 0, .zeroMaxMessageSize⟩,
    .directory files environment,
    ⟨∃ item ∈ registryItems environment, ¬ Text.AllBlank item, .noRegistry⟩] ++
  (registryItems environment).map .supported

/-! ## The checks -/

theorem judges_readAddress (config : Config) (listener : Listener) :
    Judges (Server.readAddress config listener) [.address config listener] := by
  have means : _ ↔ (Requirement.address config listener).holds :=
    Net.SocketAddress.isSome_ofString?_iff
  unfold Server.readAddress
  cases found : Net.SocketAddress.ofString? (config.bindAddress.get listener) with
  | none =>
      rw [found] at means
      simp only [found]
      exact .inl ⟨fun held => Bool.false_ne_true (means.mpr held), rfl⟩
  | some address =>
      rw [found] at means
      simp only [found]
      exact List.forall_mem_singleton.mpr (means.mp rfl)

theorem judges_addresses (config : Config) :
    Judges (PerListener.forListeners (Server.readAddress config))
      [.address config .http, .address config .grpc, .address config .secureGrpc] := by
  apply (judges_readAddress config .http).bind
  intro http _
  apply (judges_readAddress config .grpc).bind
  intro grpc _
  apply (judges_readAddress config .secureGrpc).bind
  intro secureGrpc _
  exact judges_ok _

theorem judges_checkConfigDir {files : FileTree} {environment : Variables} {config : Config}
    (loaded : config.configDir = (environment Config.configDirKey).filter (· ≠ "")) :
    Judges (Server.checkConfigDir files config.configDir) [.directory files environment] := by
  rw [loaded]
  cases found : environment Config.configDirKey with
  | none =>
      apply (judges_ok _).cons
      intro directory present
      rw [found] at present
      cases present
  | some path =>
      by_cases empty : path = ""
      · rw [Option.filter_some_neg (by simp [empty])]
        apply (judges_ok _).cons
        intro directory present filled
        rw [found] at present
        exact (filled (Option.some.inj present ▸ empty)).elim
      · rw [Option.filter_some_pos (by simp [empty])]
        apply judges_ite
        · simp [Requirement.directory, found, empty]
        · simp [Requirement.directory, found]

theorem ofList_eq_iff {text : List Char} {name : String} :
    String.ofList text = name ↔ text = name.toList := by
  constructor
  · rintro rfl
    exact String.toList_ofList.symm
  · rintro rfl
    exact String.ofList_toList

theorem judges_ofName {item : List Char} (filled : ¬ Text.AllBlank item) :
    Judges (RegistryKind.ofName (String.ofList (Text.trim item))) [.supported item] := by
  have upper : Text.trim item = "Mock".toList ↔ _ := Text.trim_eq_iff (by decide) ⟨rfl, rfl⟩
  have lower : Text.trim item = "mock".toList ↔ _ := Text.trim_eq_iff (by decide) ⟨rfl, rfl⟩
  apply judges_ite
  · rw [ofList_eq_iff, ofList_eq_iff, upper, lower]
    exact (or_iff_right filled).symm
  · rfl

/-- Items that are blank are passed over, and the others are looked at by their names. -/
theorem judges_mapM_ofName (items : List (List Char)) :
    Judges ((((items.map Text.trim).filter fun name => !name.isEmpty).map String.ofList).mapM
      RegistryKind.ofName) (items.map .supported) := by
  induction items with
  | nil => exact judges_ok []
  | cons item rest ih =>
      by_cases blank : Text.AllBlank item
      · have dropped : Text.trim item = [] := Text.trim_eq_nil_iff.mpr blank
        simp only [List.map_cons, dropped, List.filter_cons, List.isEmpty_nil, Bool.not_true]
        exact ih.cons (.inl blank)
      · have kept : (Text.trim item).isEmpty = false :=
          List.isEmpty_eq_false_iff.mpr (mt Text.trim_eq_nil_iff.mp blank)
        simp only [List.map_cons, List.filter_cons, kept, Bool.not_false, if_true, List.mapM_cons]
        apply (judges_ofName blank).bind
        intro kind _
        exact ih.thenOk (kind :: ·)

theorem judges_ofNames {environment : Variables} {config : Config}
    (loaded : config.registries =
      Config.registryNames ((environment Config.registriesKey).getD Config.defaultRegistry)) :
    Judges (ServiceRegistry.ofNames config.registries config.namespaceName)
      (⟨∃ item ∈ registryItems environment, ¬ Text.AllBlank item, .noRegistry⟩ ::
        (registryItems environment).map .supported) := by
  rw [loaded]
  apply judges_guard
  · simp [Config.registryNames, Text.listedNames, registryItems, Config.defaultRegistry,
      ← Text.trim_eq_nil_iff]
  · exact (judges_mapM_ofName (registryItems environment)).thenOk fun kinds =>
      ServiceRegistry.mk (kinds.eraseDups.flatMap (·.services config.namespaceName))

/-- What loading takes from the variables as it stands. -/
theorem Config.ofVariables_ok {environment : Variables} {config : Config}
    (loaded : Config.ofVariables environment = .ok config) :
    config.configDir = (environment Config.configDirKey).filter (· ≠ "") ∧
      config.registries =
        Config.registryNames ((environment Config.registriesKey).getD Config.defaultRegistry) := by
  rcases Server.exists_of_bind_ok loaded with ⟨delay, -, sized⟩
  rcases Server.exists_of_bind_ok sized with ⟨size, -, made⟩
  cases made
  exact ⟨rfl, rfl⟩

/-- Building a server looks at the addresses first, and at the registries last. -/
theorem judges_build_of {files : FileTree} {config : Config} {directory : Requirement}
    {registries : List Requirement}
    (checked : Judges (Server.checkConfigDir files config.configDir) [directory])
    (found : Judges (ServiceRegistry.ofNames config.registries config.namespaceName) registries) :
    Judges (Server.build files config)
      ([.address config .http, .address config .grpc, .address config .secureGrpc,
        ⟨config.refreshDelayMs ≠ 0, .zeroRefreshDelay⟩,
        ⟨config.maxMessageSize ≠ 0, .zeroMaxMessageSize⟩, directory] ++ registries) := by
  -- One step for each requirement of the list, in the order of the list.
  apply (judges_addresses config).bind
  intro addresses _
  apply judges_guard Iff.rfl
  apply judges_guard Iff.rfl
  apply checked.bind
  intro _ _
  have planned := found.thenOk fun registry => ControlPlane.mk config registry .initial .zero
  exact planned.thenOk fun plane => Server.mk plane addresses none

/-- Building a server looks at the requirements of its configuration in their order. -/
theorem judges_build {files : FileTree} {environment : Variables} {config : Config}
    (loaded : Config.ofVariables environment = .ok config) :
    Judges (Server.build files config) (requirements files environment config) := by
  rcases Config.ofVariables_ok loaded with ⟨directory, registries⟩
  exact judges_build_of (judges_checkConfigDir directory) (judges_ofNames registries)

/-! ## Acceptance -/

-- There is one registry, so a second mention of any is a second mention of it.
theorem RegistryKind.eraseDups_cons (kind : RegistryKind) (others : List RegistryKind) :
    (kind :: others).eraseDups = [.mock] := by
  have same : others.filter (fun other => !other == kind) = [] := by
    rw [List.filter_eq_nil_iff]
    rintro ⟨⟩ -
    cases kind
    decide
  rw [List.eraseDups_cons, same]
  cases kind
  rfl

/-- All registries that can be named are the one of the mock services. -/
theorem ServiceRegistry.services_of_ofNames {names : List String} {namespaceName : String}
    {registry : ServiceRegistry} (made : ServiceRegistry.ofNames names namespaceName = .ok registry) :
    registry.services = RegistryKind.mock.services namespaceName := by
  cases names with
  | nil => cases made
  | cons first rest =>
      rcases Server.exists_of_bind_ok made with ⟨kinds, found, made⟩
      rw [List.mapM_cons] at found
      rcases Server.exists_of_bind_ok found with ⟨kind, -, found⟩
      rcases Server.exists_of_bind_ok found with ⟨others, -, joined⟩
      cases joined
      cases made
      rw [RegistryKind.eraseDups_cons, List.flatMap_singleton]

namespace Server

/-- A server is built exactly if all requirements hold. Otherwise the first that does not is
reported. A server that is built has its configuration and the services of its namespace, and has
done nothing yet. -/
theorem new_accepts {files : FileTree} {environment : Variables} {config : Config}
    (loaded : Config.ofVariables environment = .ok config) :
    ((∃ server, new files config = .ok server) ↔
      ∀ requirement ∈ requirements files environment config, requirement.holds) ∧
    (∀ error, new files config = .error error ↔
      ∃ fault, error = .config fault ∧
        FirstBroken (requirements files environment config) fault) ∧
    (∀ server, new files config = .ok server →
      server.plane.config = config ∧ server.plane.health = ⟨false, .notServing⟩ ∧
        server.plane.counters = ⟨0, 0⟩ ∧ server.bound = none ∧
        server.plane.registry.services = ["hello", "world"].map fun name =>
          ⟨name ++ "." ++ config.namespaceName ++ ".svc.cluster.local", config.namespaceName, 80,
            .mock⟩) := by
  have judges : Judges (build files config) _ := judges_build loaded
  refine ⟨?_, ?_, ?_⟩
  · rw [← judges.passes_iff, new]
    cases build files config with
    | error fault => simp [Except.mapError]
    | ok server => simp [Except.mapError]
  · intro error
    simp only [← judges.fails_iff, new]
    cases build files config with
    | error fault => simp [Except.mapError, eq_comm]
    | ok server => simp [Except.mapError]
  · intro server built
    rcases exists_of_new built with ⟨plane, addresses, rfl, planned, -⟩
    rcases exists_of_bind_ok planned with ⟨registry, made, joined⟩
    cases joined
    exact ⟨rfl, rfl, rfl, rfl, ServiceRegistry.services_of_ofNames made⟩

/-- A delay of zero, and a registry that is not supported. -/
def hasty : Variables := fun name =>
  if name = Config.refreshDelayKey then some "0"
  else if name = Config.registriesKey then some " Mock,, etcd" else none

def hastyConfig : Config where
  namespaceName := "default"
  bindAddress := ⟨"0.0.0.0:8080", "0.0.0.0:15010", "0.0.0.0:15012"⟩
  configDir := none
  certDir := "/etc/certs"
  registries := ["Mock", "etcd"]
  refreshDelayMs := 0
  maxMessageSize := 4194304

theorem new_accepts_zeroRefreshDelay :
    Config.ofVariables hasty = .ok hastyConfig ∧
      ∀ files, new files hastyConfig = .error (.config .zeroRefreshDelay) := by
  have loaded : Config.ofVariables hasty = .ok hastyConfig := by decide
  refine ⟨loaded, ?_⟩
  intro files
  have isAddress {text : String} (read : (Net.SocketAddress.ofString? text).isSome = true) :
      Net.IsSocketAddress text.toList := Net.SocketAddress.isSome_ofString?_iff.mp read
  apply ((new_accepts loaded).2.1 _).mpr
  refine ⟨.zeroRefreshDelay, rfl, .inr ⟨isAddress (by decide), .inr ⟨isAddress (by decide),
    .inr ⟨isAddress (by decide), .inl ⟨by decide, rfl⟩⟩⟩⟩⟩

end Server

end MeshControl
