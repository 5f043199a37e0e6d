import MeshControl.Server.Error
import MeshControl.Net.SocketAddress

/-!
What a server holds on its machine: listeners that are open, and tasks that run.

An open listener keeps others from its address until it is released. While a server starts, each
listener it has opened belongs to the start itself, and goes with it if the start fails. Only a
start that succeeds leaves its listeners to tasks, which release them when they end.
-/

namespace MeshControl

inductive ServerTask where
  /-- It serves the clients of one listener, which belongs to it. -/
  | serve (listener : Listener)
  | sync
deriving DecidableEq

/-- What a server holds. The listener that was opened last comes first. -/
structure Holdings where
  listeners : List (Listener × Net.SocketAddress)
  tasks : List ServerTask
deriving DecidableEq

namespace Holdings

def empty : Holdings := ⟨[], []⟩

def addresses (holdings : Holdings) : List Net.SocketAddress :=
  holdings.listeners.map Prod.snd

def isOpen (holdings : Holdings) (listener : Listener) : Bool :=
  holdings.listeners.any fun held => held.1 == listener

def hold (holdings : Holdings) (listener : Listener) (address : Net.SocketAddress) : Holdings :=
  { holdings with listeners := (listener, address) :: holdings.listeners }

def release (holdings : Holdings) (listener : Listener) (address : Net.SocketAddress) : Holdings :=
  { holdings with listeners := holdings.listeners.erase (listener, address) }

def spawn (holdings : Holdings) (tasks : List ServerTask) : Holdings :=
  { holdings with tasks := holdings.tasks ++ tasks }

/-- Let a task end. Its listener goes with it. -/
def finish (holdings : Holdings) (task : ServerTask) : Holdings where
  listeners := holdings.listeners.filter fun held => ServerTask.serve held.1 != task
  tasks := holdings.tasks.erase task

@[simp]
theorem addresses_hold (holdings : Holdings) (listener : Listener) (address : Net.SocketAddress) :
    (holdings.hold listener address).addresses = address :: holdings.addresses := rfl

/-- Releasing what was opened last leaves what was held before. -/
@[simp]
theorem release_hold (holdings : Holdings) (listener : Listener) (address : Net.SocketAddress) :
    (holdings.hold listener address).release listener address = holdings := by
  simp [hold, release]

end Holdings

/-- Something done on the way to a started server. It may fail, and it may change what the server
holds. -/
abbrev Starting (α : Type) := ExceptT ServerError (StateM Holdings) α

namespace Starting

variable {α β : Type}

/-! ## What becomes of what is held -/

theorem run_pure (value : α) (holdings : Holdings) :
    (pure value : Starting α).run holdings = (.ok value, holdings) := rfl

theorem run_throw (error : ServerError) (holdings : Holdings) :
    (throw error : Starting α).run holdings = (.error error, holdings) := rfl

theorem run_lift (result : Except ServerError α) (holdings : Holdings) :
    (liftM result : Starting α).run holdings = (result, holdings) := rfl

theorem run_get (holdings : Holdings) :
    (get : Starting Holdings).run holdings = (.ok holdings, holdings) := rfl

theorem run_modify (change : Holdings → Holdings) (holdings : Holdings) :
    (modify change : Starting PUnit).run holdings = (.ok ⟨⟩, change holdings) := rfl

theorem run_bind (first : Starting α) (next : α → Starting β) (holdings : Holdings) :
    (first >>= next).run holdings =
      match first.run holdings with
      | (.ok value, later) => (next value).run later
      | (.error error, later) => (.error error, later) := by
  simp only [ExceptT.run, ExceptT.bind, ExceptT.mk, bind, StateT.bind]
  cases first holdings with
  | mk result later => cases result <;> rfl

/-- Whoever handles an error finds what was held when it came up. -/
theorem run_tryCatch (body : Starting α) (handler : ServerError → Starting α)
    (holdings : Holdings) :
    (tryCatch body handler).run holdings =
      match body.run holdings with
      | (.ok value, later) => (.ok value, later)
      | (.error error, later) => (handler error).run later := by
  simp only [tryCatch, tryCatchThe, MonadExceptOf.tryCatch, ExceptT.tryCatch, ExceptT.run,
    ExceptT.mk, bind, StateT.bind]
  cases body holdings with
  | mk result later => cases result <;> rfl

end Starting

end MeshControl
