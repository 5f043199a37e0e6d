import MeshControl.Harness.Readiness
import MeshControl.Harness.TestControlPlane
import MeshControl.Proofs.FileTree.Keeping
import MeshControl.Proofs.Net.SocketText
import MeshControl.Proofs.Text.Trimming

/-!
From the variables of a process to a control plane under test that can be started.

The one setting that comes from a variable goes a long way: it is read as a port, written into an
address, and read by the server again. On this way nothing is refused any more once the port was read.
What is written is read back, the other settings are constants that suit each other, and the
directory of configuration files was made by the harness itself.

Main statement: `Settings.ofVariables_startable`.
-/

namespace MeshControl.Harness

open Net

/-! ## The port in a variable -/

/-- The port that a variable asks for: a number with blanks around it, if with any. No variable, and
one with blanks only, ask for port zero. -/
def AsksForPort (setting : Option String) (port : Port) : Prop :=
  (∀ value, setting = some value → Text.AllBlank value.toList) ∧ port = 0 ∨
    ∃ value number, setting = some value ∧ Text.IsUnsigned number port.val ∧
      Text.IsPadded number value.toList

namespace Settings

theorem readHttpPort_filled {value : String} (filled : ¬ Text.AllBlank value.toList) :
    readHttpPort (some value) =
      match Text.readUnsigned 65536 (Text.trim value.toList) with
      | some port => .ok port
      | none => .error (.invalidPort (String.ofList (Text.trim value.toList))) := by
  have rest : (Text.trim value.toList).isEmpty = false :=
    List.isEmpty_eq_false_iff.mpr (mt Text.trim_eq_nil_iff.mp filled)
  simp only [readHttpPort, rest]
  rfl

theorem readHttpPort_blank {setting : Option String}
    (blank : ∀ value, setting = some value → Text.AllBlank value.toList) :
    readHttpPort setting = .ok 0 := by
  cases setting with
  | none => rfl
  | some value => simp [readHttpPort, Text.trim_eq_nil_iff.mpr (blank value rfl)]

theorem readHttpPort_eq_ok_iff {setting : Option String} {port : Port} :
    readHttpPort setting = .ok port ↔ AsksForPort setting port := by
  by_cases blank : ∀ value, setting = some value → Text.AllBlank value.toList
  · rw [readHttpPort_blank blank]
    constructor
    · rintro ⟨⟩
      exact .inl ⟨blank, rfl⟩
    · rintro (⟨-, rfl⟩ | ⟨value, number, found, written, padded⟩)
      · rfl
      · have trimmed := Text.trim_eq_of_padded written padded
        rw [Text.trim_eq_nil_iff.mpr (blank value found)] at trimmed
        exact absurd trimmed.symm (Text.ne_nil_of_isUnsigned written)
  · push Not at blank
    rcases blank with ⟨value, rfl, filled⟩
    rw [readHttpPort_filled filled]
    constructor
    · intro read
      cases found : Text.readUnsigned 65536 (Text.trim value.toList) with
      | none =>
          rw [found] at read
          cases read
      | some number =>
          rw [found] at read
          cases read
          exact .inr ⟨value, _, rfl, Text.readUnsigned_eq_some_iff.mp found,
            Text.isPadded_trim value.toList⟩
    · rintro (⟨blank, -⟩ | ⟨_, number, ⟨⟩, written, padded⟩)
      · exact absurd (blank value rfl) filled
      · rw [Text.trim_eq_of_padded written padded, Text.readUnsigned_eq_some_iff.mpr written]

/-- What is refused is reported without the blanks around it. -/
theorem readHttpPort_eq_error {setting : Option String} {fault : SetupFault}
    (refused : readHttpPort setting = .error fault) :
    ∃ value, setting = some value ∧ ¬ Text.AllBlank value.toList ∧
      fault = .invalidPort (String.ofList (Text.trim value.toList)) := by
  by_cases blank : ∀ value, setting = some value → Text.AllBlank value.toList
  · rw [readHttpPort_blank blank] at refused
    cases refused
  · push Not at blank
    rcases blank with ⟨value, rfl, filled⟩
    rw [readHttpPort_filled filled] at refused
    split at refused
    case h_1 => cases refused
    case h_2 =>
      cases refused
      exact ⟨value, rfl, filled, rfl⟩

theorem ofVariables_of_ok {environment : Variables} {port : Port}
    (read : readHttpPort (environment httpPortKey) = .ok port) :
    ofVariables environment = .ok { default with httpPort := port } := by
  rw [ofVariables, read]
  rfl

theorem ofVariables_of_error {environment : Variables} {fault : SetupFault}
    (refused : readHttpPort (environment httpPortKey) = .error fault) :
    ofVariables environment = .error (.configuration fault) := by
  rw [ofVariables, refused]
  rfl

theorem ofVariables_eq_ok_iff {environment : Variables} {settings : Settings} :
    ofVariables environment = .ok settings ↔
      ∃ port, AsksForPort (environment httpPortKey) port ∧
        settings = { default with httpPort := port } := by
  simp only [← readHttpPort_eq_ok_iff]
  constructor
  · intro loaded
    cases read : readHttpPort (environment httpPortKey) with
    | error fault =>
        rw [ofVariables_of_error read] at loaded
        cases loaded
    | ok port =>
        rw [ofVariables_of_ok read] at loaded
        cases loaded
        exact ⟨port, rfl, rfl⟩
  · rintro ⟨port, read, rfl⟩
    exact ofVariables_of_ok read

theorem ofVariables_eq_error_iff {environment : Variables} {error : HarnessError} :
    ofVariables environment = .error error ↔
      ∃ value, environment httpPortKey = some value ∧ ¬ Text.AllBlank value.toList ∧
        (¬ ∃ number, ∃ port : Port, Text.IsUnsigned number port.val ∧
          Text.IsPadded number value.toList) ∧
        error = .configuration (.invalidPort (String.ofList (Text.trim value.toList))) := by
  cases read : readHttpPort (environment httpPortKey) with
  | ok port =>
      rw [ofVariables_of_ok read]
      refine iff_of_false (by rintro ⟨⟩) ?_
      rintro ⟨value, found, filled, none, -⟩
      rcases readHttpPort_eq_ok_iff.mp read with ⟨blank, -⟩ | ⟨other, number, found', asked⟩
      · exact filled (blank value found)
      · cases found.symm.trans found'
        exact none ⟨number, port, asked⟩
  | error fault =>
      rw [ofVariables_of_error read, Except.error.injEq, eq_comm]
      rcases readHttpPort_eq_error read with ⟨value, found, filled, rfl⟩
      constructor
      · rintro rfl
        refine ⟨value, found, filled, ?_, rfl⟩
        rintro ⟨number, port, asked⟩
        rw [readHttpPort_eq_ok_iff.mpr (.inr ⟨value, number, found, asked⟩)] at read
        cases read
      · rintro ⟨other, found', -, -, rfl⟩
        cases found.symm.trans found'
        rfl

/-! ## The addresses -/

theorem listenAddress_eq_text (port : Port) :
    listenAddress port.val = (SocketAddress.v4 .loopback port).text := by
  have host : bindHost.toList = Ipv4.loopback.write := by decide
  apply String.toList_inj.mp
  simp [listenAddress, SocketAddress.text, SocketAddress.write, host, Text.decimalText]

/-- The port that is left to a listener. -/
def listenPort (settings : Settings) : Listener → Port
  | .http => settings.httpPort
  | .grpc | .secureGrpc => 0

theorem ofString?_listenAddresses (settings : Settings) (listener : Listener) :
    SocketAddress.ofString? (settings.listenAddresses.get listener) =
      some (.v4 .loopback (settings.listenPort listener)) := by
  cases listener with
  | http => exact (congrArg _ (listenAddress_eq_text _)).trans (SocketAddress.ofString?_text _)
  | grpc => exact (congrArg _ (listenAddress_eq_text 0)).trans (SocketAddress.ofString?_text _)
  | secureGrpc => exact (congrArg _ (listenAddress_eq_text 0)).trans (SocketAddress.ofString?_text _)

end Settings

/-! ## The server -/

theorem keeps_foldlM_writeFile {directory : String} {content : FileContent} {names : List String}
    {files written : FileTree}
    (done : names.foldlM (fun files name =>
      files.writeFile (FileTree.join directory name) content) files = .ok written) :
    files.Keeps written := by
  induction names generalizing files with
  | nil =>
      cases done
      exact .refl _
  | cons name rest inductionHypothesis =>
      rw [List.foldlM_cons] at done
      rcases Server.exists_of_bind_ok done with ⟨next, first, others⟩
      exact (FileTree.writeFile_keeps first).trans (inductionHypothesis others)

/-- The directory of configuration files is there once the fixtures are written. -/
theorem isDirectory_of_writeFixtures {files prepared : FileTree} {workDir : String}
    (written : writeFixtures files workDir = .ok prepared) :
    prepared.isDirectory (testConfigDir workDir) = true := by
  rcases Server.exists_of_bind_ok written with ⟨identified, -, configured⟩
  rcases Server.exists_of_bind_ok configured with ⟨made, created, configured⟩
  have there := (FileTree.createDirectory_keeps created).2
  exact (keeps_foldlM_writeFile configured).isDirectory there

/-- The test configuration of a directory is accepted as soon as its directory of configuration files
is there. -/
theorem new_testConfig {files : FileTree} {workDir : String}
    (there : files.isDirectory (testConfigDir workDir) = true) (settings : Settings) :
    ∃ server, Server.new files (testConfig workDir settings.listenAddresses) = .ok server ∧
      server.plane.config = testConfig workDir settings.listenAddresses ∧
      server.addresses = .ofFn fun listener => .v4 .loopback (settings.listenPort listener) := by
  have read (listener : Listener) :
      Server.readAddress (testConfig workDir settings.listenAddresses) listener =
        .ok (.v4 .loopback (settings.listenPort listener)) := by
    rw [Server.readAddress, testConfig, settings.ofString?_listenAddresses]
  have checked : Server.checkConfigDir files (some (testConfigDir workDir)) = .ok () :=
    if_pos there
  have planned : ∃ plane,
      ControlPlane.ofConfig (testConfig workDir settings.listenAddresses) = .ok plane ∧
        plane.config = testConfig workDir settings.listenAddresses := ⟨_, rfl, rfl⟩
  rcases planned with ⟨plane, planned, same⟩
  refine ⟨⟨plane, _, none⟩, ?_, same, rfl⟩
  rw [Server.new, Server.build, PerListener.forListeners, read, read, read]
  have passed : Server.checkConfigDir files
      (testConfig workDir settings.listenAddresses).configDir = .ok () := checked
  rw [passed, planned]
  rfl

namespace Settings

/-- The settings that no variable changes leave time for probes. -/
theorem exists_ofSettings (port : Port) :
    ∃ poller, Poller.ofSettings { default with httpPort := port } = .ok poller := by
  have attempt : default.attemptTimeout.nanoseconds < default.pollInterval.nanoseconds := by decide
  have budget : 0 < default.maxWait.nanoseconds := by decide
  refine ⟨⟨_, _, _, attempt, budget⟩, ?_⟩
  rw [Poller.ofSettings, Poller.new, dif_pos attempt, dif_pos budget]

/-- Whatever is in the variables, a harness refuses the port or gets settings that suit a control plane
under test.

The port is refused if the variable is there and holds something else than blanks around a number of
16 bits. Otherwise that number is the port, or zero if there is nothing but blanks, and all else is as
ever. With such settings readiness can be polled, and a server is built from the test configuration of
every directory in which the fixtures could be written. Its HTTP listener is to have the chosen port
of the machine itself, and the other two any free one. -/
theorem ofVariables_startable (environment : Variables) :
    (∀ error, ofVariables environment = .error error ↔
      ∃ value, environment httpPortKey = some value ∧ ¬ Text.AllBlank value.toList ∧
        (¬ ∃ number, ∃ port : Port, Text.IsUnsigned number port.val ∧
          Text.IsPadded number value.toList) ∧
        error = .configuration (.invalidPort (String.ofList (Text.trim value.toList)))) ∧
    (∀ settings, ofVariables environment = .ok settings ↔
      ∃ port, AsksForPort (environment httpPortKey) port ∧
        settings = { default with httpPort := port }) ∧
    ∀ settings, ofVariables environment = .ok settings →
      (∃ poller, Poller.ofSettings settings = .ok poller) ∧
      ∀ (site : TestSite) config, site.configuration settings.listenAddresses = .ok config →
        ∃ server, Server.new site.prepared config = .ok server ∧
          server.plane.config = config ∧
          server.addresses = ⟨.v4 .loopback settings.httpPort, .v4 .loopback 0, .v4 .loopback 0⟩ ∧
          SocketAddress.ofString? config.bindAddress.http =
            some (.v4 .loopback settings.httpPort) ∧
          SocketAddress.ofString? config.bindAddress.grpc = some (.v4 .loopback 0) ∧
          SocketAddress.ofString? config.bindAddress.secureGrpc = some (.v4 .loopback 0) := by
  refine ⟨fun error => ofVariables_eq_error_iff, fun settings => ofVariables_eq_ok_iff, ?_⟩
  intro settings loaded
  constructor
  · rcases ofVariables_eq_ok_iff.mp loaded with ⟨port, -, rfl⟩
    exact exists_ofSettings port
  · intro site config configured
    rw [TestSite.configuration] at configured
    split at configured
    case h_1 prepared written =>
      cases configured
      have files : site.prepared = prepared := by rw [TestSite.prepared, written]
      rw [files]
      rcases new_testConfig (isDirectory_of_writeFixtures written) settings with
        ⟨server, built, config, addresses⟩
      exact ⟨server, built, config, addresses, settings.ofString?_listenAddresses .http,
        settings.ofString?_listenAddresses .grpc, settings.ofString?_listenAddresses .secureGrpc⟩
    case h_2 => cases configured

/-- A port behind a sign and a zero, among blanks of several scripts. -/
def pinnedAmongBlanks : Variables := fun name =>
  if name = httpPortKey then some "\u2003+08080\u3000\t" else none

/-- A machine without any files, not even those above the directory of the fixtures. -/
def bareSite : TestSite where
  surroundings := ⟨⟨.directory [], []⟩, ⟨true, []⟩, ⟨1, 2, 3⟩, .ofFn fun _ => none⟩
  workDir := "/tmp/./tests//1"

/-- The port is found among the blanks, the directories are made, and the server is built. -/
theorem ofVariables_startable_pinned :
    ∃ server, Server.new bareSite.prepared
        (testConfig "/tmp/./tests//1" ⟨"127.0.0.1:8080", "127.0.0.1:0", "127.0.0.1:0"⟩) =
          .ok server ∧
      server.addresses = ⟨.v4 .loopback 8080, .v4 .loopback 0, .v4 .loopback 0⟩ := by
  have loaded : ofVariables pinnedAmongBlanks = .ok { default with httpPort := 8080 } := by
    decide +kernel
  have configured : bareSite.configuration (listenAddresses { default with httpPort := 8080 }) =
      .ok (testConfig "/tmp/./tests//1" ⟨"127.0.0.1:8080", "127.0.0.1:0", "127.0.0.1:0"⟩) := by
    decide +kernel
  rcases ofVariables_startable pinnedAmongBlanks with ⟨-, -, startable⟩
  rcases (startable _ loaded).2 bareSite _ configured with ⟨server, built, -, addresses, -⟩
  exact ⟨server, built, addresses⟩

end Settings

end MeshControl.Harness
