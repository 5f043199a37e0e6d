import MeshControl.Net.Machine
import MeshControl.Server.Construction
import MeshControl.Server.Holdings

/-!
Starting a server: its identity is read, then its listeners are bound one after the other.

A start that fails has no effect: listeners that were bound before the failure are released with
it. This is not done by looking back at what has been bound, but by nesting: all that follows on a
listener is done within it, and whoever fails there passes through its release. Once all are bound,
their addresses are read back from them, which may fail as well. A server that was started once
cannot be started again, not even after it was stopped.
-/

namespace MeshControl

/-- What a start finds on the machine. -/
structure Surroundings where
  files : FileTree
  machine : Net.Machine
  /-- The free port that each listener gets if it asks for any. -/
  freePorts : PerListener Net.Port
  /-- Why the address of a listener that is bound cannot be read back from it, if it cannot. -/
  unreadable : PerListener (Option SystemError)

/-- Both halves of an identity have to be what they are called, and belong together. -/
def formsIdentity (chain key : FileContent) : Bool :=
  match chain, key with
  | .certificate first, .key second => first == second
  | _, _ => false

namespace Server

/-! ## Identity -/

/-- The files of an identity within their directory. -/
def certChainFile : String := "cert-chain.pem"
def keyFile : String := "key.pem"

def readIdentityFile (files : FileTree) (path : String) : Except IdentityFault FileContent :=
  (files.readFile path).mapError (.unreadable path)

/-- Read the certificate chain, then the key, and check that they make an identity. -/
def loadIdentity (files : FileTree) (certDir : String) : Except IdentityFault Unit := do
  let chain ← readIdentityFile files (FileTree.join certDir certChainFile)
  let key ← readIdentityFile files (FileTree.join certDir keyFile)
  if formsIdentity chain key then
    return ()
  throw .unusable

/-! ## Listeners -/

/-- Bind one listener; the ones that the server holds already are in its way like any other. -/
def bindListener (server : Server) (surroundings : Surroundings)
    (held : List Net.SocketAddress) (listener : Listener) :
    Except ServerError Net.SocketAddress :=
  ((surroundings.machine.occupy held).bind (surroundings.freePorts.get listener)
    (server.addresses.get listener)).mapError
      (.bind listener (server.plane.config.bindAddress.get listener))

/-- Bind one listener and do what is to be done with its address. The listener does not outlive a
failure of that. -/
def withListener {α : Type} (server : Server) (surroundings : Surroundings) (listener : Listener)
    (body : Net.SocketAddress → Starting α) : Starting α := do
  let address ← server.bindListener surroundings (← get).addresses listener
  modify fun holdings => holdings.hold listener address
  tryCatch (body address) fun error => do
    modify fun holdings => holdings.release listener address
    throw error

/-- Read back the address of a listener that is bound. -/
def localAddress (server : Server) (surroundings : Surroundings) (listener : Listener)
    (address : Net.SocketAddress) : Except ServerError Net.SocketAddress :=
  match surroundings.unreadable.get listener with
  | some error => .error (.bind listener (server.plane.config.bindAddress.get listener) error)
  | none => .ok address

def localAddresses (server : Server) (surroundings : Surroundings)
    (addresses : PerListener Net.SocketAddress) :
    Except ServerError (PerListener Net.SocketAddress) :=
  PerListener.forListeners fun listener =>
    server.localAddress surroundings listener (addresses.get listener)

/-! ## Start -/

def tasks : List ServerTask := Listener.all.map .serve ++ [.sync]

def startWithin (server : Server) (surroundings : Surroundings) : Starting Server := do
  if server.bound.isSome then
    throw .alreadyStarted
  (loadIdentity surroundings.files server.plane.config.certDir).mapError ServerError.tls
  server.withListener surroundings .http fun http =>
    server.withListener surroundings .grpc fun grpc =>
      server.withListener surroundings .secureGrpc fun secureGrpc => do
        let bound ← server.localAddresses surroundings ⟨http, grpc, secureGrpc⟩
        modify fun holdings => holdings.spawn tasks
        return { server with bound := some bound }

/-- Start a server that holds nothing yet. -/
def start (server : Server) (surroundings : Surroundings) : Except ServerError Server :=
  ((server.startWithin surroundings).run Holdings.empty).1

end Server

end MeshControl
