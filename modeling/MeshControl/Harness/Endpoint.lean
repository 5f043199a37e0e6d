import MeshControl.Harness.Error
import MeshControl.Net.SocketAddress

/-!
Endpoints: the address under which a client reaches a listener.

A listener reports what it is bound to, and that may be an address that nobody can dial, such as a
wildcard. Wildcard and loopback hosts are published as `localhost`; an IPv6 address is published
in its one text and in brackets; every other host is left as it is.
-/

namespace MeshControl.Harness

structure Endpoint where
  host : String
  port : Net.Port
deriving DecidableEq

namespace Endpoint

def localHost : String := "localhost"

/-- The host and the port of a reported address, as they stand in it. -/
def splitHostPort : List Char → Except AddressFault (List Char × List Char)
  | '[' :: text =>
    match Net.SocketAddress.splitAtFirst ']' text with
    | none => .error .missingBracket
    | some (host, ':' :: port) => .ok (host, port)
    | some _ => .error .missingPort
  | text =>
    match Net.SocketAddress.splitAtLast ':' text with
    | none => .error .missingPort
    | some (host, port) =>
      if host.contains ':' then .error .tooManyColons
      else if port.isEmpty then .error .missingPort
      else .ok (host, port)

/-- A port that a listener can be bound to. -/
def readPort (text : List Char) : Except AddressFault Net.Port :=
  match Text.readUnsigned 65536 text with
  | none => .error .invalidPort
  | some port => if port = 0 then .error .zeroPort else .ok port

/-- The host that a client dials to reach a bound host. -/
def clientHost (host : List Char) : List Char :=
  if host.isEmpty then localHost.toList
  else
    match Net.IpAddress.read host with
    | none => host
    | some address =>
      if address.isWildcard || address.isLoopback then localHost.toList
      else
        match address with
        | .v4 _ => host
        | .v6 inner => '[' :: (inner.write ++ [']'])

/-- The endpoint of a reported address, or why it is none. -/
def ofBound (bound : List Char) : Except AddressFault Endpoint := do
  let (host, port) ← splitHostPort bound
  return ⟨String.ofList (clientHost host), ← readPort port⟩

def resolve (listener : Listener) (bound : String) : Except HarnessError Endpoint :=
  (ofBound bound.toList).mapError (.addressFormat listener bound)

/-- Host and port, as a gRPC client needs them. -/
def address (endpoint : Endpoint) : String :=
  endpoint.host ++ ":" ++ Text.decimalText endpoint.port.val

def url (endpoint : Endpoint) : String :=
  "http://" ++ endpoint.address

def inspect (endpoint : Endpoint) : String :=
  Text.inspectRecord "EndpointDescriptor" [("address", Text.quoted endpoint.address),
    ("port", Text.decimalText endpoint.port.val)]

end Endpoint

abbrev Endpoints := PerListener Endpoint

namespace Endpoints

/-- The endpoint of a listener that may not be bound. -/
def resolveOne (listener : Listener) : Option String → Except HarnessError Endpoint
  | some bound => Endpoint.resolve listener bound
  | none => .error (.addressFormat listener "" .notBound)

/-- Ask for the address of each listener in order, up to the first that cannot be published. -/
def resolve {m : Type → Type} [Monad m] (ask : Listener → m (Option String)) :
    m (Except HarnessError Endpoints) :=
  (PerListener.forListeners fun listener =>
    ExceptT.mk (resolveOne listener <$> ask listener)).run

def inspect (endpoints : Endpoints) : String :=
  Text.inspectRecord "Endpoints" [("http", endpoints.http.inspect),
    ("grpc", endpoints.grpc.inspect), ("secure_grpc", endpoints.secureGrpc.inspect)]

end Endpoints

end MeshControl.Harness
