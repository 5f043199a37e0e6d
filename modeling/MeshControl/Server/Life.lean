import MeshControl.Pages
import MeshControl.Server.Start

/-!
The life of a server, from its construction over attempts to start it to its shutdown.

A started server listens at once, but its first pass over the configuration files is still to
come; waiting for readiness lets it happen. A shutdown is signalled first and noticed later: in
between, the readiness flag still stands, and waiting for it to fall lets the tasks end. If it is
signalled before the first pass, that pass is given up, and nobody withdraws the readiness. The
refresh delay is taken to be longer than any of these lives, so there is only the one pass.
-/

namespace MeshControl

inductive ServerPhase where
  | idle
  /-- It listens, and its first pass is still to come. -/
  | warming
  /-- It listens, and its first pass is over. -/
  | serving
  /-- Its shutdown is signalled, before its first pass. -/
  | aborting
  /-- Its shutdown is signalled, and its first pass is over. -/
  | stopping
  /-- Its tasks are over. -/
  | stopped
deriving DecidableEq

namespace ServerPhase

def isListening : ServerPhase → Bool
  | warming | serving => true
  | idle | aborting | stopping | stopped => false

def isReleased : ServerPhase → Bool
  | aborting | stopping | stopped => true
  | idle | warming | serving => false

end ServerPhase

/-- A server in some phase of its life, and what it holds meanwhile. -/
structure ServerLife where
  server : Server
  phase : ServerPhase
  holdings : Holdings
deriving DecidableEq

namespace ServerLife

def ofServer (server : Server) : ServerLife := ⟨server, .idle, .empty⟩

def withPlane (life : ServerLife) (plane : ControlPlane) : ServerLife :=
  { life with server := { life.server with plane } }

/-! ## Starting and stopping -/

def start (life : ServerLife) (surroundings : Surroundings) : ServerLife :=
  match (life.server.startWithin surroundings).run life.holdings with
  | (.ok server, holdings) => ⟨server, .warming, holdings⟩
  | (.error _, holdings) => { life with holdings }

/-- Let the first pass happen. -/
def warmUp (life : ServerLife) (files : FileTree) : ServerLife :=
  match life.phase with
  | .warming =>
    { life.withPlane ((life.server.plane.pass files).withHealth .serving) with phase := .serving }
  | _ => life

def cancel (life : ServerLife) : ServerLife :=
  match life.phase with
  | .warming => { life with phase := .aborting }
  | .serving => { life with phase := .stopping }
  | _ => life

/-- Let the tasks notice the shutdown. Health is withdrawn by who reported it, so not before the first
pass. -/
def windDown (life : ServerLife) : ServerLife :=
  match life.phase with
  | .aborting => { life with phase := .stopped, holdings := .empty }
  | .stopping =>
    { life.withPlane (life.server.plane.withHealth .initial) with
      phase := .stopped
      holdings := .empty }
  | _ => life

/-- Wait for a listener to be released. Only its own task has to notice the shutdown for that. -/
def awaitRelease (life : ServerLife) (listener : Listener) : ServerLife :=
  if life.phase.isReleased then
    { life with holdings := life.holdings.finish (.serve listener) }
  else life

/-! ## Steps -/

/-- What can be done with a server. Starting and waiting depend on the machine. -/
inductive Step where
  | start (surroundings : Surroundings)
  | waitReady (files : FileTree)
  | waitNotReady
  | setReady (ready : Bool)
  | cancel
  | released (listener : Listener)
  | request (reachable : Bool) (request : PageRequest)
  | check (reachable : Bool) (service : String)

def step (life : ServerLife) : Step → ServerLife
  | .start surroundings => life.start surroundings
  | .waitReady files => life.warmUp files
  | .waitNotReady => life.windDown
  | .setReady ready => life.withPlane (life.server.plane.withReady ready)
  | .cancel => life.cancel
  | .released listener => life.awaitRelease listener
  | .request _ _ | .check _ _ => life

def run (life : ServerLife) (steps : List Step) : ServerLife :=
  steps.foldl step life

inductive Answer where
  | nothing
  | started
  | failed (error : ServerError)
  | truth (value : Bool)
  /-- A client could not connect. -/
  | unreachable
  | response (response : PageResponse)
  | checked (answer : HealthAnswer)
deriving DecidableEq

/-- What a client gets, given the answer of the server if it can be asked. -/
def answerClient (life : ServerLife) (reachable : Bool) (answer : Answer) : Answer :=
  if life.server.bound.isNone then .nothing
  else if reachable && life.phase.isListening then answer
  else .unreachable

def answer (life : ServerLife) : Step → Answer
  | .start surroundings =>
    match ((life.server.startWithin surroundings).run life.holdings).1 with
    | .ok _ => .started
    | .error error => .failed error
  | .waitReady files => .truth (life.warmUp files).server.plane.health.ready
  | .waitNotReady => .truth (!life.windDown.server.plane.health.ready)
  | .released listener =>
    .truth (life.server.bound.isSome && !(life.awaitRelease listener).holdings.isOpen listener)
  | .request reachable request =>
    life.answerClient reachable (.response (life.server.plane.answer request))
  | .check reachable service =>
    life.answerClient reachable (.checked (life.server.plane.health.checkWithin
      life.server.plane.config.maxMessageSize service))
  | .setReady _ | .cancel => .nothing

end ServerLife

end MeshControl
