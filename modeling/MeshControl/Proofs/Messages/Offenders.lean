import MeshControl.Proofs.Config.Loading
import MeshControl.Proofs.Harness.AddressGrammar
import MeshControl.Proofs.Harness.Startable
import MeshControl.Proofs.Registry.Aggregation
import MeshControl.Proofs.Text.Cutting
import MeshControl.Proofs.Text.Quoting

/-!
What the message of a refusal tells about the refused value.

Values that were written by somebody else are quoted in messages. They may hold anything, also what
looks like the end of the value and the words that follow it. Nevertheless a message is about one value
only, because the quoted part is read back as a whole, wherever it ends. What stands in front of it is
the title of a listener or the name of a variable, and these are told apart by their first letter or by
the sign behind them.

Main statement: `offender_of_message_eq`.
-/

namespace MeshControl

/-! ## Messages about addresses -/

/-- No two listeners have titles that begin alike. -/
theorem Listener.title_append_inj {listener other : Listener} {rest rest' : List Char}
    (same : listener.title.toList ++ rest = other.title.toList ++ rest') :
    listener = other ∧ rest = rest' := by
  cases listener <;> cases other
  case http.http | grpc.grpc | secureGrpc.secureGrpc =>
    exact ⟨rfl, List.append_cancel_left same⟩
  all_goals simp [title] at same

/-- A listener, an address and whatever follows are found again behind the words that introduce
them. -/
theorem address_message_inj {label rest rest' address address' : String} {listener other : Listener}
    (same : "Invalid " ++ (listener.title ++ (label ++ (Text.quoted address ++ rest))) =
      "Invalid " ++ (other.title ++ (label ++ (Text.quoted address' ++ rest')))) :
    listener = other ∧ address = address' ∧ rest = rest' := by
  have letters := congrArg String.toList same
  simp only [String.toList_append, Text.quoted, String.toList_ofList] at letters
  rcases Listener.title_append_inj (List.append_cancel_left letters) with ⟨listeners, behind⟩
  rcases Text.quote_append_inj (List.append_cancel_left behind) with ⟨addresses, rests⟩
  exact ⟨listeners, String.toList_inj.mp addresses, String.toList_inj.mp rests⟩

theorem Harness.HarnessError.addressFormat_message_inj {listener other : Listener}
    {address address' : String} {fault fault' : AddressFault}
    (same : (addressFormat listener address fault).message =
      (addressFormat other address' fault').message) :
    listener = other ∧ address = address' ∧ fault.reason = fault'.reason := by
  unfold message at same
  simp only [String.append_assoc] at same
  rcases address_message_inj same with ⟨listeners, addresses, reasons⟩
  exact ⟨listeners, addresses, (String.append_right_inj _).mp reasons⟩

theorem ConfigFault.invalidBindAddress_message_inj {listener other : Listener}
    {address address' : String}
    (same : (invalidBindAddress listener address).message =
      (invalidBindAddress other address').message) :
    listener = other ∧ address = address' := by
  unfold message at same
  simp only [String.append_assoc] at same
  rcases address_message_inj same with ⟨listeners, addresses, -⟩
  exact ⟨listeners, addresses⟩

/-! ## Messages about variables -/

theorem ConfigError.notANumber_message_inj {key key' raw raw' : String}
    (plain : '=' ∉ key.toList) (plain' : '=' ∉ key'.toList)
    (same : (notANumber key raw).message = (notANumber key' raw').message) :
    key = key' ∧ raw = raw' := by
  have sign : "=".toList = ['='] := by decide
  have letters := congrArg String.toList same
  unfold message reason at letters
  simp only [String.toList_append, List.append_assoc, Text.quoted, String.toList_ofList, sign,
    List.singleton_append] at letters
  rcases Text.append_inj_of_mark plain plain' (List.append_cancel_left letters) with
    ⟨keys, behind⟩
  exact ⟨String.toList_inj.mp keys, String.toList_inj.mp (Text.quote_append_inj behind).1⟩

theorem Config.FirstOffence.plain {environment : Variables} {key raw : String}
    (offence : FirstOffence environment key raw) : '=' ∉ key.toList := by
  cases offence <;> decide

theorem Config.FirstOffence.offends {environment : Variables} {key raw : String}
    (offence : FirstOffence environment key raw) : Offends environment key raw := by
  cases offence with
  | refreshDelay offends => exact offends
  | maxMessageSize _ offends => exact offends

theorem Harness.SetupFault.invalidPort_message_inj {raw raw' : String}
    (same : (invalidPort raw).message = (invalidPort raw').message) : raw = raw' := by
  have letters := congrArg String.toList same
  unfold message at letters
  simp only [String.toList_append, List.append_assoc, Text.quoted, String.toList_ofList] at letters
  have behind := List.append_cancel_left (List.append_cancel_left letters)
  exact String.toList_inj.mp (Text.quote_append_inj behind).1

/-! ## What is reported when a server is built -/

/-- What a configuration has to be like, wherever it comes from, in the order in which it is looked
at. -/
def Requirement.ofConfig (files : FileTree) (config : Config) : List Requirement :=
  [.address config .http, .address config .grpc, .address config .secureGrpc,
    ⟨config.refreshDelayMs ≠ 0, .zeroRefreshDelay⟩,
    ⟨config.maxMessageSize ≠ 0, .zeroMaxMessageSize⟩,
    ⟨∀ directory, config.configDir = some directory → files.isDirectory directory = true,
      .missingConfigDir (config.configDir.getD "")⟩,
    ⟨config.registries ≠ [], .noRegistry⟩] ++
  config.registries.map .named

theorem FirstBroken.exists_mem {requirements : List Requirement} {fault : ConfigFault}
    (broken : FirstBroken requirements fault) :
    ∃ requirement ∈ requirements, fault = requirement.fault := by
  induction requirements with
  | nil => exact broken.elim
  | cons first rest ih =>
      rcases broken with ⟨-, same⟩ | ⟨-, later⟩
      · exact ⟨first, List.mem_cons_self, same⟩
      · rcases ih later with ⟨requirement, member, same⟩
        exact ⟨requirement, List.mem_cons_of_mem first member, same⟩

theorem judges_configDir (files : FileTree) (configDir : Option String) :
    Judges (Server.checkConfigDir files configDir)
      [⟨∀ directory, configDir = some directory → files.isDirectory directory = true,
        .missingConfigDir (configDir.getD "")⟩] := by
  cases configDir with
  | none => exact (judges_ok _).cons (by simp)
  | some directory => exact judges_ite (by simp) rfl

theorem judges_ofConfig (files : FileTree) (config : Config) :
    Judges (Server.build files config) (Requirement.ofConfig files config) :=
  judges_build_of (judges_configDir files config.configDir)
    (judges_services config.registries config.namespaceName)

/-- Whatever is reported is the fault of something that a configuration has to be like. -/
theorem Server.exists_of_new_error {files : FileTree} {config : Config} {error : ServerError}
    (refused : new files config = .error error) :
    ∃ requirement ∈ Requirement.ofConfig files config, error = .config requirement.fault := by
  have judges := judges_ofConfig files config
  rw [new] at refused
  cases built : build files config with
  | ok server =>
      rw [built] at refused
      cases refused
  | error fault =>
      rw [built] at refused
      cases refused
      rcases (judges.fails_iff.mp built).exists_mem with ⟨requirement, member, same⟩
      exact ⟨requirement, member, congrArg _ same⟩

theorem ConfigFault.head?_invalidBindAddress (listener : Listener) (address : String) :
    (invalidBindAddress listener address).message.toList.head? = some 'I' := by
  unfold message
  simp

/-- What else a configuration has to be like is told in words that begin otherwise. -/
theorem Requirement.head?_of_other {files : FileTree} {config : Config} {requirement : Requirement}
    (member : requirement ∈ ofConfig files config) :
    (∃ listener, requirement = .address config listener) ∨
      requirement.fault.message.toList.head? ≠ some 'I' := by
  simp only [ofConfig, List.cons_append, List.nil_append, List.mem_cons, List.mem_map] at member
  rcases member with rfl | rfl | rfl | rfl | rfl | rfl | rfl | ⟨name, -, rfl⟩
  · exact .inl ⟨.http, rfl⟩
  · exact .inl ⟨.grpc, rfl⟩
  · exact .inl ⟨.secureGrpc, rfl⟩
  all_goals
    right
    unfold ConfigFault.message
    simp [named]

/-- No other fault of a configuration is told in the words for an address. -/
theorem Requirement.address_of_message {files : FileTree} {config : Config}
    {requirement : Requirement} {listener : Listener} {address : String}
    (member : requirement ∈ ofConfig files config)
    (same : (ConfigFault.invalidBindAddress listener address).message =
      requirement.fault.message) :
    requirement.fault = .invalidBindAddress listener address ∧
      config.bindAddress.get listener = address := by
  rcases head?_of_other member with ⟨other, rfl⟩ | different
  · rcases ConfigFault.invalidBindAddress_message_inj same with ⟨rfl, rfl⟩
    exact ⟨rfl, rfl⟩
  · rw [← same, ConfigFault.head?_invalidBindAddress] at different
    exact absurd rfl different

/-! ## Offenders -/

/-- Refusals in the same words are about the same value, whatever is in it.

Two reported addresses that are refused with the same message are the same text of the same listener,
and they are refused for the same reason. Variables from which a configuration cannot be loaded, with
the same message, have the same text in the same variable. Pinned ports that are refused with the same
message are the same but for the blanks around them. A bind address that keeps a server from being
built is the one that every server with this message was to bind for this listener. -/
theorem offender_of_message_eq :
    (∀ (listener other : Listener) (bound bound' : String) (error error' : Harness.HarnessError),
      Harness.Endpoint.resolve listener bound = .error error →
      Harness.Endpoint.resolve other bound' = .error error' →
      error.message = error'.message →
      listener = other ∧ bound = bound' ∧ ∃ fault,
        error = .addressFormat listener bound fault ∧
        error' = .addressFormat listener bound fault) ∧
    (∀ (environment environment' : Variables) (error error' : ConfigError),
      Config.ofVariables environment = .error error →
      Config.ofVariables environment' = .error error' →
      error.message = error'.message →
      ∃ key raw, error = .notANumber key raw ∧ error' = .notANumber key raw ∧
        Config.Offends environment key raw ∧ Config.Offends environment' key raw) ∧
    (∀ (environment environment' : Variables) (error error' : Harness.HarnessError),
      Harness.Settings.ofVariables environment = .error error →
      Harness.Settings.ofVariables environment' = .error error' →
      error.message = error'.message →
      ∃ value value', environment Harness.httpPortKey = some value ∧
        environment' Harness.httpPortKey = some value' ∧
        Text.trim value.toList = Text.trim value'.toList) ∧
    ∀ (files files' : FileTree) (config config' : Config) (listener : Listener) (address : String)
        (error : ServerError),
      Server.new files config = .error (.config (.invalidBindAddress listener address)) →
      Server.new files' config' = .error error →
      (ServerError.config (.invalidBindAddress listener address)).message = error.message →
      error = .config (.invalidBindAddress listener address) ∧
        config.bindAddress.get listener = address ∧
        config'.bindAddress.get listener = address := by
  refine ⟨?_, ?_, ?_, ?_⟩
  · intro listener other bound bound' error error' refused refused' same
    rcases Harness.Endpoint.resolve_eq_error_iff.mp refused with ⟨fault, found, rfl⟩
    rcases Harness.Endpoint.resolve_eq_error_iff.mp refused' with ⟨fault', found', rfl⟩
    rcases Harness.HarnessError.addressFormat_message_inj same with ⟨rfl, rfl, -⟩
    cases found.symm.trans found'
    exact ⟨rfl, rfl, fault, rfl, rfl⟩
  · intro environment environment' error error' refused refused' same
    rcases Config.ofVariables_eq_error_iff.mp refused with ⟨key, raw, offence, rfl⟩
    rcases Config.ofVariables_eq_error_iff.mp refused' with ⟨key', raw', offence', rfl⟩
    rcases ConfigError.notANumber_message_inj offence.plain offence'.plain same with ⟨rfl, rfl⟩
    exact ⟨key, raw, rfl, rfl, offence.offends, offence'.offends⟩
  · intro environment environment' error error' refused refused' same
    rcases Harness.Settings.ofVariables_eq_error_iff.mp refused with ⟨value, set, -, -, rfl⟩
    rcases Harness.Settings.ofVariables_eq_error_iff.mp refused' with ⟨value', set', -, -, rfl⟩
    have raws := Harness.SetupFault.invalidPort_message_inj ((String.append_right_inj _).mp same)
    exact ⟨value, value', set, set', String.ofList_injective raws⟩
  · intro files files' config config' listener address error refused refused' same
    rcases Server.exists_of_new_error refused with ⟨requirement, member, found⟩
    rcases Server.exists_of_new_error refused' with ⟨requirement', member', rfl⟩
    have words := (String.append_right_inj _).mp same
    have own := congrArg ConfigFault.message (ServerError.config.inj found)
    rcases Requirement.address_of_message member own with ⟨-, read⟩
    rcases Requirement.address_of_message member' words with ⟨blamed, read'⟩
    exact ⟨congrArg _ blamed, read, read'⟩

/-- A text that closes its own quotes and goes on like the message. -/
def imitation : String :=
  "7\": missing port in address"

def imitated : Variables := fun name =>
  if name = Config.refreshDelayKey then some "7\" is not a valid number"
  else if name = Harness.httpPortKey then some "\u2003http\n" else none

def controlled : Config :=
  { Server.hastyConfig with bindAddress := ⟨"0.0.0.0:8080", "\x7f", "\\u\x7b7f\x7d"⟩ }

/-- Values that imitate what follows them, blanks that are no part of a value, and a control character
next to a text that looks like its code: each message is that of one value. -/
theorem offender_of_message_eq_imitated :
    (Harness.Endpoint.resolve .grpc imitation =
        .error (.addressFormat .grpc imitation .invalidPort) ∧
      ∀ listener bound error, Harness.Endpoint.resolve listener bound = .error error →
        error.message =
          "Invalid gRPC listener address \"7\\\": missing port in address\": invalid port" →
        listener = .grpc ∧ bound = imitation) ∧
    (Config.ofVariables imitated =
        .error (.notANumber Config.refreshDelayKey "7\" is not a valid number") ∧
      ∀ environment error, Config.ofVariables environment = .error error →
        error.message = "Invalid configuration value: CP_REFRESH_DELAY_MS=" ++
          "\"7\\\" is not a valid number\" is not a valid number" →
        environment Config.refreshDelayKey = some "7\" is not a valid number") ∧
    (Harness.Settings.ofVariables imitated = .error (.configuration (.invalidPort "http")) ∧
      ∀ environment error, Harness.Settings.ofVariables environment = .error error →
        error.message =
          "Configuration error: CONTROL_PLANE_HTTP_PORT=\"http\" is not a valid port" →
        ∃ value, environment Harness.httpPortKey = some value ∧
          Text.trim value.toList = "http".toList) ∧
    ∀ files, Server.new files controlled = .error (.config (.invalidBindAddress .grpc "\x7f")) ∧
      ∀ files config error, Server.new files config = .error error →
        error.message = "Configuration error: Invalid gRPC bind address " ++
          "\"\\u\x7b7f\x7d\": invalid socket address syntax" →
        config.bindAddress.grpc = "\x7f" := by
  have resolved : Harness.Endpoint.resolve .grpc imitation =
      .error (.addressFormat .grpc imitation .invalidPort) := by decide +kernel
  have loaded : Config.ofVariables imitated =
      .error (.notANumber Config.refreshDelayKey "7\" is not a valid number") := by decide +kernel
  have set : Harness.Settings.ofVariables imitated =
      .error (.configuration (.invalidPort "http")) := by decide +kernel
  have built (files : FileTree) :
      Server.new files controlled = .error (.config (.invalidBindAddress .grpc "\x7f")) := by
    rfl
  rcases offender_of_message_eq with ⟨address, number, port, bind⟩
  refine ⟨⟨resolved, ?_⟩, ⟨loaded, ?_⟩, ⟨set, ?_⟩, fun files => ⟨built files, ?_⟩⟩
  · intro listener bound error refused same
    rcases address _ _ _ _ _ _ refused resolved (same.trans (by decide +kernel)) with
      ⟨listeners, texts, -⟩
    exact ⟨listeners, texts⟩
  · intro environment error refused same
    rcases number _ _ _ _ loaded refused ((by decide +kernel : _ = _).trans same.symm) with
      ⟨key, raw, found, -, -, written⟩
    cases found
    exact written.1
  · intro environment error refused same
    rcases port _ _ _ _ set refused ((by decide +kernel : _ = _).trans same.symm) with
      ⟨value, value', given, given', trimmed⟩
    cases given
    exact ⟨value', given', trimmed.symm.trans (by decide +kernel)⟩
  · intro files' config error refused same
    exact (bind _ _ _ _ _ _ _ (built files) refused
      ((by decide +kernel : _ = _).trans same.symm)).2.2

end MeshControl
