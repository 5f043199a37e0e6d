/-!
The three listeners of a control plane, and things that exist once for each of them.
-/

namespace MeshControl

/-- A listener: HTTP for health and debugging, gRPC in plain text, and gRPC over TLS. -/
inductive Listener where
  | http
  | grpc
  | secureGrpc
deriving DecidableEq

namespace Listener

/-- All listeners, in the order in which they are bound and resolved. -/
def all : List Listener := [http, grpc, secureGrpc]

def title : Listener → String
  | http => "HTTP"
  | grpc => "gRPC"
  | secureGrpc => "secure gRPC"

def inspect : Listener → String
  | http => "Http"
  | grpc => "Grpc"
  | secureGrpc => "SecureGrpc"

end Listener

structure PerListener (α : Type) where
  http : α
  grpc : α
  secureGrpc : α
deriving DecidableEq

namespace PerListener

variable {α β : Type}

def get (values : PerListener α) : Listener → α
  | .http => values.http
  | .grpc => values.grpc
  | .secureGrpc => values.secureGrpc

/-- The values that a function gives to the listeners. -/
def ofFn (value : Listener → α) : PerListener α :=
  ⟨value .http, value .grpc, value .secureGrpc⟩

/-- The same function on each of the three values. -/
def map (change : α → β) (values : PerListener α) : PerListener β :=
  ⟨change values.http, change values.grpc, change values.secureGrpc⟩

def toList (values : PerListener α) : List α :=
  [values.http, values.grpc, values.secureGrpc]

/-- Run an action for each listener in order, up to the first that fails. -/
def forListeners {m : Type → Type} [Monad m] (action : Listener → m α) : m (PerListener α) := do
  let http ← action .http
  let grpc ← action .grpc
  let secureGrpc ← action .secureGrpc
  return ⟨http, grpc, secureGrpc⟩

end PerListener

end MeshControl
