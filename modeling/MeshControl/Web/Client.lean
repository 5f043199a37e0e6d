import MeshControl.Harness.Readiness
import MeshControl.Web.Url

/-!
A client that follows redirections.

A redirection is an answer with one of five statuses and a location. The client asks the page at
the location instead, up to ten times in a row, and reports the status of the last answer. A
location that is no address is not followed.
-/

namespace MeshControl.Web

/-- What belongs to the status of a page. -/
structure PageAnswer where
  location : Option String
  /-- The time until the status is there. -/
  delay : Duration
  /-- The time that the body takes after that to end or to fail, if it ever does. -/
  body : Option Duration
deriving DecidableEq

/-- What comes of asking for one page. -/
inductive PageReply where
  | answered (status : Nat) (answer : PageAnswer)
  /-- After some time it is clear that there is no answer. -/
  | failed (delay : Duration)
  /-- There was a connection, and nothing else. -/
  | silent
deriving DecidableEq

/-- An answer that is there at once. -/
def PageReply.atOnce (status : Nat) (location : Option String) : PageReply :=
  .answered status ⟨location, ⟨0⟩, some ⟨0⟩⟩

/-- A site whose pages may depend on what was asked before. -/
abbrev Site (State : Type) := Url → State → PageReply × State

def redirectStatuses : List Nat := [301, 302, 303, 307, 308]

/-- How many redirections in a row are followed. -/
def maxRedirects : Nat := 10

/-- Where an answer sends the client, if it is a redirection. -/
def redirection (status : Nat) (location : Option String) : Option String :=
  if redirectStatuses.contains status then location else none

/-- The page that a location leads to from another page. -/
def nextPage (page : Url) (location : String) : Option Url :=
  Url.read (some page) location.toList

/-- The page that a reply sends the client to, and the time until it does. -/
def PageReply.onward (page : Url) : PageReply → Option (Duration × Url)
  | answered status answer => do
    let location ← redirection status answer.location
    let next ← nextPage page location
    return (answer.delay, next)
  | failed _ | silent => none

/-- What a client reports that goes no further. -/
def PageReply.report : PageReply → Harness.ProbeReply
  | answered status answer => .answered status answer.delay answer.body
  | failed delay => .failed delay
  | silent => .silent

/-- Ask for a page, and follow so many redirections. The body of a redirection is not waited for. -/
def follow {State : Type} (site : Site State) :
    Nat → Url → State → Harness.ProbeReply × State
  | redirects, page, state =>
    let (reply, state) := site page state
    match reply.onward page, redirects with
    | none, _ => (reply.report, state)
    | some (delay, _), 0 => (.failed delay, state)
    | some (delay, next), redirects + 1 =>
      let (last, state) := follow site redirects next state
      (last.after delay, state)
termination_by structural redirects => redirects

/-- Ask for the page at an address. -/
def fetch {State : Type} (site : Site State) (address : String) (state : State) :
    Harness.ProbeReply × State :=
  match Url.read none address.toList with
  | some page => follow site maxRedirects page state
  | none => (.failed ⟨0⟩, state)

/-- What comes of asking for the same page again and again, by the number of the time. -/
def replies {State : Type} (site : Site State) (address : String) (state : State) (number : Nat) :
    Harness.ProbeReply :=
  (fetch site address (number.repeat (fun state => (fetch site address state).2) state)).1

end MeshControl.Web
