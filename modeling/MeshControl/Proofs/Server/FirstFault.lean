import MeshControl.Server.Life

/-!
Which fault a start reports, and what a failed start leaves behind.

A start goes through ten stages. What each of them can fail on is stated here for itself, on what
lies outside and on what the server holds before the start, without regard to how the stages are
nested. The listeners bound earlier in the same start enter only as addresses, because what address
a listener gets can be told without binding it. Then a start reports the first fault in the order
of the stages, if there is one, and leaves what was held as it was.

Main statement: `startWithin_run`.
-/

namespace MeshControl

def errorOf {ε α : Type} : Except ε α → Option ε
  | .ok _ => none
  | .error error => some error

theorem errorOf_mapError {ε ε' α : Type} (change : ε → ε') (result : Except ε α) :
    errorOf (result.mapError change) = (errorOf result).map change := by
  cases result <;> rfl

theorem errorOf_bind {ε α β : Type} (first : Except ε α) (next : α → Except ε β) :
    errorOf (first >>= next) =
      match first with
      | .error error => some error
      | .ok value => errorOf (next value) := by
  cases first <;> rfl

/-! ## The stages -/

inductive StartStage where
  /-- A server is started once. -/
  | once
  | readChain
  | readKey
  | formIdentity
  | bind (listener : Listener)
  /-- The address of a listener is read back from it. -/
  | readBack (listener : Listener)
deriving DecidableEq

def StartStage.all : List StartStage :=
  [once, readChain, readKey, formIdentity] ++ Listener.all.map bind ++ Listener.all.map readBack

/-- The listeners that are bound before one, the last first. -/
def Listener.earlier : Listener → List Listener
  | http => []
  | grpc => [http]
  | secureGrpc => [grpc, http]

namespace Server

/-- The certificate chain and the key, as far as they can be read. -/
def readChain (server : Server) (surroundings : Surroundings) :
    Except IdentityFault FileContent :=
  readIdentityFile surroundings.files
    (FileTree.join server.plane.config.certDir certChainFile)

def readKey (server : Server) (surroundings : Surroundings) :
    Except IdentityFault FileContent :=
  readIdentityFile surroundings.files (FileTree.join server.plane.config.certDir keyFile)

/-- The address that a listener gets if it gets one. -/
def granted (server : Server) (surroundings : Surroundings) (listener : Listener) :
    Net.SocketAddress :=
  Net.Machine.granted (surroundings.freePorts.get listener) (server.addresses.get listener)

/-- The fault that a stage finds by itself. Files that cannot be read make no identity, but that is
the fault of reading them. -/
def faultAt (server : Server) (surroundings : Surroundings) (held : List Net.SocketAddress) :
    StartStage → Option ServerError
  | .once => if server.bound.isSome then some .alreadyStarted else none
  | .readChain => (errorOf (server.readChain surroundings)).map .tls
  | .readKey => (errorOf (server.readKey surroundings)).map .tls
  | .formIdentity =>
    match server.readChain surroundings, server.readKey surroundings with
    | .ok chain, .ok key => if formsIdentity chain key then none else some (.tls .unusable)
    | _, _ => none
  | .bind listener =>
    errorOf (server.bindListener surroundings
      (listener.earlier.map (server.granted surroundings) ++ held) listener)
  | .readBack listener =>
    errorOf (server.localAddress surroundings listener (server.granted surroundings listener))

/-- The fault of the first stage that finds one. -/
def firstFault (server : Server) (surroundings : Surroundings) (held : List Net.SocketAddress) :
    Option ServerError :=
  StartStage.all.findSome? (server.faultAt surroundings held)

/-- A server with its listeners bound. -/
def started (server : Server) (surroundings : Surroundings) : Server :=
  { server with bound := some (.ofFn (server.granted surroundings)) }

/-- What a started server holds in addition: its three listeners, and its tasks. -/
def acquired (server : Server) (surroundings : Surroundings) (holdings : Holdings) : Holdings :=
  (Listener.all.foldl
    (fun held listener => held.hold listener (server.granted surroundings listener))
    holdings).spawn tasks

/-! ## One listener -/

/-- A listener is opened, and closed again if something fails within it. -/
theorem withListener_run {α : Type} (server : Server) (surroundings : Surroundings)
    (listener : Listener) (body : Net.SocketAddress → Starting α) (holdings : Holdings) :
    (server.withListener surroundings listener body).run holdings =
      match server.bindListener surroundings holdings.addresses listener with
      | .error error => (.error error, holdings)
      | .ok address =>
        match (body address).run (holdings.hold listener address) with
        | (.ok result, later) => (.ok result, later)
        | (.error error, later) => (.error error, later.release listener address) := by
  simp only [withListener, Starting.run_bind, Starting.run_get, Starting.run_lift,
    Starting.run_modify, Starting.run_tryCatch, Starting.run_throw]
  cases server.bindListener surroundings holdings.addresses listener <;> rfl

theorem eq_granted_of_bindListener {server : Server} {surroundings : Surroundings}
    {held : List Net.SocketAddress} {listener : Listener} {address : Net.SocketAddress}
    (bound : server.bindListener surroundings held listener = .ok address) :
    address = server.granted surroundings listener := by
  unfold bindListener at bound
  cases found : (surroundings.machine.occupy held).bind (surroundings.freePorts.get listener)
      (server.addresses.get listener) with
  | error error =>
      rw [found] at bound
      cases bound
  | ok given =>
      rw [found] at bound
      cases bound
      exact Net.Machine.eq_granted_of_bind found

/-! ## Faults in order -/

/-- An action reports a fault and leaves what was held, or has a result and goes on to hold
something else. -/
def Settles {α : Type} (action : Starting α) (holdings : Holdings) (fault : Option ServerError)
    (result : α) (later : Holdings) : Prop :=
  action.run holdings =
    match fault with
    | some error => (.error error, holdings)
    | none => (.ok result, later)

section

variable {α : Type} {holdings later : Holdings} {fault : Option ServerError} {result : α}

/-- A check comes before what follows on it, and on what it found. -/
theorem Settles.check {β : Type} {next : β → Starting α} (checked : Except ServerError β)
    (settles : ∀ value, checked = .ok value → Settles (next value) holdings fault result later) :
    Settles (liftM checked >>= next) holdings ((errorOf checked).or fault) result later := by
  unfold Settles
  rw [Starting.run_bind, Starting.run_lift]
  cases checked with
  | error error => rfl
  | ok value => exact settles value rfl

/-- What fails within a listener leaves what was held before the listener was opened. -/
theorem Settles.withListener {server : Server} {surroundings : Surroundings} {listener : Listener}
    {body : Net.SocketAddress → Starting α}
    (settles : Settles (body (server.granted surroundings listener))
      (holdings.hold listener (server.granted surroundings listener)) fault result later) :
    Settles (server.withListener surroundings listener body) holdings
      ((errorOf (server.bindListener surroundings holdings.addresses listener)).or fault) result
      later := by
  unfold Settles
  rw [withListener_run]
  cases bound : server.bindListener surroundings holdings.addresses listener with
  | error error => rfl
  | ok address =>
      unfold Settles at settles
      rw [eq_granted_of_bindListener bound]
      simp only [settles]
      cases fault with
      | none => rfl
      | some error => simp [errorOf]

end

/-- The first fault of an identity is in its chain, in its key, or in what they make together. -/
theorem errorOf_loadIdentity (server : Server) (surroundings : Surroundings)
    (held : List Net.SocketAddress) :
    errorOf ((loadIdentity surroundings.files server.plane.config.certDir).mapError
        ServerError.tls) =
      (server.faultAt surroundings held .readChain).or
        ((server.faultAt surroundings held .readKey).or
          (server.faultAt surroundings held .formIdentity)) := by
  have unfolded : loadIdentity surroundings.files server.plane.config.certDir =
      (server.readChain surroundings >>= fun chain =>
        server.readKey surroundings >>= fun key =>
          if formsIdentity chain key then pure () else throw .unusable) := rfl
  rw [unfolded]
  simp only [faultAt]
  cases server.readChain surroundings with
  | error fault => rfl
  | ok chain =>
      cases server.readKey surroundings with
      | error fault => rfl
      | ok key =>
          change errorOf (Except.mapError ServerError.tls
            (if formsIdentity chain key then pure () else throw IdentityFault.unusable)) =
              if formsIdentity chain key then none else some (ServerError.tls .unusable)
          split <;> rfl

/-- The addresses that are read back are those that were granted. -/
theorem localAddresses_eq (server : Server) (surroundings : Surroundings)
    (held : List Net.SocketAddress) :
    errorOf (server.localAddresses surroundings (.ofFn (server.granted surroundings))) =
        ((server.faultAt surroundings held (.readBack .http)).or
          (server.faultAt surroundings held (.readBack .grpc))).or
            (server.faultAt surroundings held (.readBack .secureGrpc)) ∧
      ∀ bound, server.localAddresses surroundings (.ofFn (server.granted surroundings)) = .ok bound →
        bound = .ofFn (server.granted surroundings) := by
  have unfolded : server.localAddresses surroundings (.ofFn (server.granted surroundings)) =
      (server.localAddress surroundings .http (server.granted surroundings .http) >>= fun http =>
        server.localAddress surroundings .grpc (server.granted surroundings .grpc) >>= fun grpc =>
          server.localAddress surroundings .secureGrpc (server.granted surroundings .secureGrpc) >>=
            fun secureGrpc => pure ⟨http, grpc, secureGrpc⟩) := rfl
  rw [unfolded]
  simp only [faultAt, localAddress]
  cases surroundings.unreadable.get .http with
  | some error => exact ⟨rfl, by rintro _ ⟨⟩⟩
  | none =>
      cases surroundings.unreadable.get .grpc with
      | some error => exact ⟨rfl, by rintro _ ⟨⟩⟩
      | none =>
          cases surroundings.unreadable.get .secureGrpc with
          | some error => exact ⟨rfl, by rintro _ ⟨⟩⟩
          | none =>
              refine ⟨rfl, ?_⟩
              rintro _ ⟨⟩
              rfl

/-! ## The whole start -/

/-- The listeners and the tasks, once nothing stands in the way of binding. -/
private theorem settles_listeners (server : Server) (surroundings : Surroundings)
    (holdings : Holdings) :
    Settles
      (server.withListener surroundings .http fun http =>
        server.withListener surroundings .grpc fun grpc =>
          server.withListener surroundings .secureGrpc fun secureGrpc => do
            let bound ← server.localAddresses surroundings ⟨http, grpc, secureGrpc⟩
            modify fun holdings => holdings.spawn tasks
            return { server with bound := some bound })
      holdings
      ((server.faultAt surroundings holdings.addresses (.bind .http)).or
        ((server.faultAt surroundings holdings.addresses (.bind .grpc)).or
          ((server.faultAt surroundings holdings.addresses (.bind .secureGrpc)).or
            ((server.faultAt surroundings holdings.addresses (.readBack .http)).or
              ((server.faultAt surroundings holdings.addresses (.readBack .grpc)).or
                ((server.faultAt surroundings holdings.addresses (.readBack .secureGrpc)).or
                  none))))))
      (server.started surroundings) (server.acquired surroundings holdings) := by
  rcases server.localAddresses_eq surroundings holdings.addresses with ⟨faults, granted⟩
  apply Settles.withListener
  apply Settles.withListener
  apply Settles.withListener
  rw [← Option.or_assoc, ← Option.or_assoc, ← faults]
  apply Settles.check
  intro bound read
  rw [granted bound read]
  rfl

theorem firstFault_eq (server : Server) (surroundings : Surroundings)
    (held : List Net.SocketAddress) :
    server.firstFault surroundings held =
      (server.faultAt surroundings held .once).or
        ((server.faultAt surroundings held .readChain).or
          ((server.faultAt surroundings held .readKey).or
            ((server.faultAt surroundings held .formIdentity).or
              ((server.faultAt surroundings held (.bind .http)).or
                ((server.faultAt surroundings held (.bind .grpc)).or
                  ((server.faultAt surroundings held (.bind .secureGrpc)).or
                    ((server.faultAt surroundings held (.readBack .http)).or
                      ((server.faultAt surroundings held (.readBack .grpc)).or
                        ((server.faultAt surroundings held (.readBack .secureGrpc)).or
                          none))))))))) := by
  have cons (stage : StartStage) (stages : List StartStage) :
      (stage :: stages).findSome? (server.faultAt surroundings held) =
        (server.faultAt surroundings held stage).or
          (stages.findSome? (server.faultAt surroundings held)) := by
    rw [List.findSome?_cons]
    cases server.faultAt surroundings held stage <;> rfl
  simp only [firstFault, StartStage.all, Listener.all, List.map_cons, List.map_nil, List.cons_append,
    List.nil_append, cons, List.findSome?_nil]

/-- A start reports the fault of its first stage that finds one, and then leaves what was held as
it was. If no stage finds one, the server is started, and holds its listeners and tasks. -/
theorem startWithin_run (server : Server) (surroundings : Surroundings) (holdings : Holdings) :
    (server.startWithin surroundings).run holdings =
      match server.firstFault surroundings holdings.addresses with
      | some error => (.error error, holdings)
      | none => (.ok (server.started surroundings), server.acquired surroundings holdings) := by
  have listening := server.settles_listeners surroundings holdings
  have settles := Settles.check
    ((loadIdentity surroundings.files server.plane.config.certDir).mapError ServerError.tls)
    fun _ _ => listening
  rw [server.errorOf_loadIdentity surroundings holdings.addresses] at settles
  unfold startWithin
  cases already : server.bound.isSome with
  | true =>
      have first : server.firstFault surroundings holdings.addresses = some .alreadyStarted := by
        simp [firstFault, StartStage.all, faultAt, already]
      rw [first]
      rfl
  | false =>
      have fresh : server.faultAt surroundings holdings.addresses .once = none := by
        simp [faultAt, already]
      rw [firstFault_eq, fresh, Option.none_or]
      simp only [Option.or_assoc] at settles
      exact settles

/-- A server with two listeners on one port. -/
def crowded : Server where
  plane := {
    config := ⟨"default", ⟨"127.0.0.1:80", "127.0.0.1:80", "127.0.0.1:0"⟩, none, "/certs", ["Mock"],
      1000, 4096⟩
    registry := ⟨[]⟩
    health := .initial
    counters := .zero }
  addresses := ⟨.v4 .loopback 80, .v4 .loopback 80, .v4 .loopback 0⟩
  bound := none

/-- Files with an identity for it. -/
def certified : FileTree :=
  ⟨.directory [(.ofText "certs".toList, .directory [
    (.ofText certChainFile.toList, .file (.certificate 0)),
    (.ofText keyFile.toList, .file (.key 0))])], []⟩

/-- The second listener finds the first in its way, and takes it down with it. -/
example :
    (crowded.startWithin ⟨certified, ⟨true, []⟩, ⟨1, 2, 3⟩, .ofFn fun _ => none⟩).run .empty =
      (.error (.bind .grpc "127.0.0.1:80" .addressInUse), .empty) := by
  rfl

end Server

end MeshControl
