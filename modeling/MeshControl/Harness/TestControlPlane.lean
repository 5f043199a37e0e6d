import MeshControl.FileTree.Change
import MeshControl.Harness.ManagedServer
import MeshControl.Pages
import MeshControl.Server.Start
import MeshControl.Web.Client

/-!
The control plane as a server under test.

Its test configuration lives in a directory of its own, with two configuration files and a fresh
identity, and rescans often. Everything else is the control plane as it is: it is built and
started like any other, and probed at the pages of its HTTP listener.
-/

namespace MeshControl.Harness

def testNamespace : String := "testing"

/-- How often a control plane under test looks at its configuration files. -/
def testRefreshDelayMs : Nat := 10

/-- The configuration files of a control plane under test. -/
def testConfigFiles : List String := ["gateway.yaml", "virtual-service.yaml"]

/-- The directories of the fixtures within the directory of a test. -/
def testConfigDir (workDir : String) : String := FileTree.join workDir "config"
def testCertDir (workDir : String) : String := FileTree.join workDir "certs"

/-- The number of the identity that is made for a test. -/
def testIdentity : Nat := 0

def writeIdentity (files : FileTree) (certDir : String) : Except SystemError FileTree := do
  let files ← files.createDirectory certDir
  let files ← files.writeFile (FileTree.join certDir Server.certChainFile)
    (.certificate testIdentity)
  files.writeFile (FileTree.join certDir Server.keyFile) (.key testIdentity)

def writeConfigFiles (files : FileTree) (configDir : String) : Except SystemError FileTree := do
  let files ← files.createDirectory configDir
  testConfigFiles.foldlM
    (fun files name => files.writeFile (FileTree.join configDir name) .other) files

/-- Write the fixtures of a control plane under test into their directory. -/
def writeFixtures (files : FileTree) (workDir : String) : Except SystemError FileTree := do
  writeConfigFiles (← writeIdentity files (testCertDir workDir)) (testConfigDir workDir)

def testConfig (workDir : String) (listen : PerListener String) : Config where
  namespaceName := testNamespace
  bindAddress := listen
  configDir := some (testConfigDir workDir)
  certDir := testCertDir workDir
  registries := [RegistryKind.mock.title]
  refreshDelayMs := testRefreshDelayMs
  maxMessageSize := Config.defaultMaxMessageSize

structure TestSite where
  surroundings : Surroundings
  /-- The directory that the harness made for the fixtures. -/
  workDir : String

namespace TestSite

/-- The files of the machine once the fixtures are written. -/
def prepared (site : TestSite) : FileTree :=
  match writeFixtures site.surroundings.files site.workDir with
  | .ok files => files
  | .error _ => site.surroundings.files

/-- A control plane whose first pass over its configuration files is over. -/
def warmed (site : TestSite) (server : Server) : ControlPlane :=
  (server.plane.pass site.prepared).withHealth .serving

/-- The pages of a started control plane, as a client finds them. -/
def web (site : TestSite) (server : Server) : Web.Site Unit := fun url _ =>
  let isThere := server.bound.any fun bound => url.reaches bound.http
  if site.surroundings.machine.isUp && isThere then
    let response := (site.warmed server).answer ⟨"GET", url.target, ""⟩
    (.atOnce response.status none, ())
  else (.failed ⟨0⟩, ())

/-- The test configuration, if its fixtures can be written. -/
def configuration (site : TestSite) (listen : PerListener String) : Except ServerError Config :=
  match writeFixtures site.surroundings.files site.workDir with
  | .ok _ => .ok (testConfig site.workDir listen)
  | .error error => .error (.config (.reported ("Failed to write test fixture: " ++ error.message)))

/-- What a control plane does, as a reaction. -/
def react {α : Type} : Except ServerError α → Reaction α
  | .ok value => .done value
  | .error error => .refused error.message

/-- The control plane as a server under test. Each of its tasks gets a token of its own. -/
def controlPlane (site : TestSite) : ManagedServer Config Server where
  testConfiguration listen := react (site.configuration listen)
  build config := react (Server.new site.prepared config)
  start server := react (server.start { site.surroundings with files := site.prepared })
  address server listener := some (server.bound.map fun bound => (bound.get listener).text)
  replies server url := Web.replies (site.web server) url ()
  tokenUses _ := Server.tasks.map fun _ => (⟨0⟩, .child 0)

end TestSite

end MeshControl.Harness
