import MeshControl.Harness.ManagedServer
import MeshControl.Json
import MeshControl.Server.Start
import MeshControl.Web.Client

/-!
A server that behaves as it is told to, for testing a harness.

It can refuse or die at every stage, report any addresses, and answer its probes from a script.
Next to the scripted page it has a good page, a page that leads to it, and one that leads to
itself, so that redirections can be tested as well.
-/

namespace MeshControl.Harness

/-! ## The site -/

structure ScriptedAnswer where
  status : Nat
  location : Option String
  /-- Whether the answer never comes. -/
  hangs : Bool

/-- A site whose page at one path follows a script. -/
structure ScriptedSite where
  script : List ScriptedAnswer
  readyPath : String

namespace ScriptedSite

/-- The answer to a request for the scripted page; the last one is repeated. -/
def answerOf (site : ScriptedSite) (number : Nat) : Option ScriptedAnswer :=
  site.script[min number (site.script.length - 1)]?

/-- The pages that do not follow the script. -/
def plainPage (target : String) : Web.PageReply :=
  if target = "/ok" then .atOnce 200 none
  else if target = "/hop" then .atOnce 302 (some "/ok")
  else if target = "/loop" then .atOnce 302 (some "/loop")
  else .atOnce 404 none

/-- The pages of a site; the state counts the requests for the scripted one. Without a script
nobody listens. -/
def web (site : ScriptedSite) (listensAt : Web.Url → Bool) : Web.Site Nat := fun url number =>
  if !listensAt url then (.failed ⟨0⟩, number)
  else
    match site.answerOf number with
    | none => (.failed ⟨0⟩, number)
    | some answer =>
      if url.target = site.readyPath then
        (if answer.hangs then .silent else .atOnce answer.status answer.location, number + 1)
      else (plainPage url.target, number)

end ScriptedSite

/-! ## The server -/

/-- What a scripted server reports as the address of a listener. -/
inductive ReportedAddress where
  /-- The address that it bound itself. -/
  | own
  | given (address : Option String)

/-- How a scripted server behaves. -/
structure ScriptedConfig where
  listen : PerListener String
  tag : Json
  /-- Why the server refuses to be built. -/
  rejects : Option String
  diesInBuild : Bool
  /-- Why the server refuses to start. -/
  failsToStart : Option String
  diesInStart : Bool
  /-- Whether the server stops itself as soon as it is started. -/
  cancelsItself : Bool
  reported : PerListener ReportedAddress
  site : ScriptedSite

/-- A scripted server, and what its HTTP listener is bound to. -/
structure ScriptedServer where
  config : ScriptedConfig
  bound : Option Net.SocketAddress

structure ScriptedSurroundings where
  machine : Net.Machine
  /-- The port that the listener gets if it asks for any. -/
  freePort : Net.Port

namespace ScriptedServer

/-- A server that behaves well. -/
def defaultConfig (listen : PerListener String) : ScriptedConfig where
  listen := listen
  tag := .null
  rejects := none
  diesInBuild := false
  failsToStart := none
  diesInStart := false
  cancelsItself := false
  reported := ⟨.own, .given (some "127.0.0.1:1001"), .given (some "127.0.0.1:1002")⟩
  site := ⟨[⟨200, none, false⟩], "/ready"⟩

/-- What a server dies with. Nobody gets to see it. -/
def lastWords : String := "scripted"

def build (config : ScriptedConfig) : Reaction ScriptedServer :=
  if config.diesInBuild then .died lastWords
  else
    match config.rejects with
    | some text => .refused text
    | none => .done ⟨config, none⟩

/-- Start a server: its HTTP listener is bound. -/
def start (place : ScriptedSurroundings) (server : ScriptedServer) : Reaction ScriptedServer :=
  if server.config.diesInStart then .died lastWords
  else
    match server.config.failsToStart with
    | some text => .refused text
    | none =>
      match Net.SocketAddress.ofString? server.config.listen.http with
      | none => .refused socketAddressSyntax
      | some address =>
        match place.machine.bind place.freePort address with
        | .error error => .refused error.message
        | .ok bound => .done { server with bound := some bound }

/-- The address that a server reports for a listener. -/
def address (server : ScriptedServer) (listener : Listener) : Option String :=
  match server.config.reported.get listener with
  | .own => server.bound.map Net.SocketAddress.text
  | .given address => address

/-- Whether a client that dials an address finds the server there. -/
def listensAt (server : ScriptedServer) (machine : Net.Machine) (url : Web.Url) : Bool :=
  machine.isUp && !server.config.cancelsItself && server.bound.any url.reaches

/-- The scripted server as a server under test. Its test configuration can be made to fail. -/
def managed (place : ScriptedSurroundings) (configError : Option String) :
    ManagedServer ScriptedConfig ScriptedServer where
  testConfiguration listen :=
    match configError with
    | some text => .refused text
    | none => .done (defaultConfig listen)
  build := build
  start := start place
  address server listener := some (server.address listener)
  replies server url := Web.replies (server.config.site.web (server.listensAt place.machine)) url 0
  tokenUses server := if server.config.cancelsItself then [(⟨0⟩, .cancel 0)] else []

end ScriptedServer

end MeshControl.Harness
