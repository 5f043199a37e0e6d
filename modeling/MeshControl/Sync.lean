import MeshControl.FileTree.Change
import MeshControl.Pages
import MeshControl.Ticker

/-!
The sync task of a control plane, and what happens around it while it runs.

The task looks at the configuration files when it is started and then whenever its ticker goes off,
until it is cancelled. After the first pass both health reports turn positive, and at the end both
turn negative. There is no ticker for a refresh period of zero: the task dies after its first pass,
and nobody withdraws the health reports.

To cancel the task is to fire its token. The task goes on until it notices. If it notices while its
first pass is under way, it gives up that pass and is over at once: it counts nothing and writes
neither report, so that a readiness flag that was set from outside stands.

Time is virtual, and counted from the end of the first pass, when the ticker is started. The first
pass may take any time, and anything may happen meanwhile. It stands for what it finds at its end.
Every later pass is one moment, the one at which it is due.
-/

namespace MeshControl

inductive SyncTask where
  | waiting
  /-- Its first pass is under way. -/
  | starting
  /-- It runs, for so many milliseconds since its first pass, and waits for its ticker. -/
  | running (elapsed : Nat) (ticker : Ticker)
  /-- It died after its first pass, and nobody has looked yet. -/
  | crashed
  /-- It is over, and its end was seen. -/
  | ended
deriving DecidableEq

/-- A control plane, its sync task, and the files that the task looks at. -/
structure Sync where
  plane : ControlPlane
  task : SyncTask
  /-- Whether the token of the task has fired. -/
  isCancelled : Bool
  files : FileTree

namespace Sync

def ofPlane (plane : ControlPlane) (files : FileTree) : Sync :=
  ⟨plane, .waiting, false, files⟩

/-! ## The task -/

/-- The end of the first pass, after which the control plane is ready. The ticker that is started
then goes off at once, which does not count. -/
def turnReady (state : Sync) : Sync :=
  { state with
    plane := (state.plane.pass state.files).withHealth .serving
    task := match Ticker.start 0 state.plane.config.refreshDelayMs with
      | some ticker => .running 0 ticker.strike
      | none => .crashed }

/-- Make a pass each time that the ticker goes off, up to and including some time. -/
def catchUp (files : FileTree) (now : Nat) (ticker : Ticker) (plane : ControlPlane) :
    Ticker × ControlPlane :=
  if ticker.due ≤ now then catchUp files now ticker.strike (plane.pass files)
  else (ticker, plane)
termination_by now + 1 - ticker.due
decreasing_by
  have := ticker.due_lt_due_strike
  omega

def advance (state : Sync) (stretch : Nat) : Sync :=
  match state.task with
  | .running elapsed ticker =>
    let now := elapsed + stretch
    let (ticker, plane) := catchUp state.files now ticker state.plane
    { state with plane, task := .running now ticker }
  | _ => state

/-- Let the task notice that it was cancelled, and see its end. Both reports are withdrawn by a task
that waits for its ticker, and by no other. -/
def join (state : Sync) : Sync :=
  if state.isCancelled then
    match state.task with
    | .waiting | .ended => state
    | .starting | .crashed => { state with task := .ended }
    | .running _ _ => { state with plane := state.plane.withHealth .initial, task := .ended }
  else state

/-! ## Steps -/

/-- What can happen around a sync task. -/
inductive Step where
  /-- Start the task. A task is started once. -/
  | spawn
  /-- The first pass comes to its end. -/
  | firstPass
  | advance (milliseconds : Nat)
  | cancel
  | join
  | changeFiles (changes : List FileTree.Change)
  | setReady (ready : Bool)
  | request (request : PageRequest)
  | check (service : String)

def step (state : Sync) : Step → Sync
  | .spawn =>
    match state.task with
    | .waiting => { state with task := .starting }
    | _ => state
  | .firstPass =>
    match state.task with
    | .starting => state.turnReady
    | _ => state
  | .advance milliseconds => state.advance milliseconds
  | .cancel => { state with isCancelled := true }
  | .join => state.join
  | .changeFiles changes => { state with files := changes.foldl FileTree.apply state.files }
  | .setReady ready => { state with plane := state.plane.withReady ready }
  | .request _ => state
  | .check _ => state

def run (state : Sync) (steps : List Step) : Sync :=
  steps.foldl step state

inductive Answer where
  | nothing
  /-- Whether the task died after its first pass. -/
  | passed (died : Bool)
  /-- Whether the task died, if there was one whose end could be seen. -/
  | joined (panicked : Option Bool)
  | response (response : PageResponse)
  | checked (answer : HealthAnswer)
deriving DecidableEq

def answer (state : Sync) : Step → Answer
  | .firstPass =>
    match state.task with
    | .starting => .passed (decide (state.turnReady.task = .crashed))
    | _ => .nothing
  | .join =>
    if state.isCancelled then
      match state.task with
      | .starting | .running _ _ => .joined (some false)
      | .crashed => .joined (some true)
      | .waiting | .ended => .joined none
    else .joined none
  | .request request => .response (state.plane.answer request)
  | .check service => .checked (state.plane.health.check service)
  | .spawn | .advance _ | .cancel | .changeFiles _ | .setReady _ => .nothing

end Sync

end MeshControl
