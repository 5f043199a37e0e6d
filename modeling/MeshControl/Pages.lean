import MeshControl.ControlPlane

/-!
The pages of the HTTP listener.

There are five pages, each at one literal path; a path is neither decoded nor normalized before
it is compared. A page can be asked for with `GET` and with `HEAD`, which gets the same answer
without its body.
-/

namespace MeshControl

structure PageRequest where
  method : String
  /-- The target as it stands in the request line. -/
  target : String
  body : String
deriving DecidableEq

namespace PageRequest

/-- What stands in front of the query and the fragment of a target. -/
def resource (target : List Char) : List Char :=
  target.takeWhile fun c => c ≠ '?' && c ≠ '#'

/-- What follows the scheme of an absolute target. -/
def afterScheme (resource : List Char) : Option (List Char) :=
  match resource.dropWhile (· ≠ ':') with
  | ':' :: '/' :: '/' :: rest => some rest
  | _ => none

/-- The path of a target without query and fragment. An absolute target has the path that follows
its host, which is a slash if there is none; a target of another form has no path. -/
def pathOf (target : List Char) : List Char :=
  match resource target with
  | '/' :: path => '/' :: path
  | other =>
    match afterScheme other with
    | none => []
    | some rest =>
      match rest.dropWhile (· ≠ '/') with
      | [] => ['/']
      | path => path

def path (request : PageRequest) : String :=
  String.ofList (pathOf request.target.toList)

end PageRequest

structure PageResponse where
  status : Nat
  contentType : Option String
  contentLength : Nat
  allow : Option String
  body : String
deriving DecidableEq

namespace PageResponse

def empty (status : Nat) : PageResponse := ⟨status, none, 0, none, ""⟩

def withBody (status : Nat) (contentType body : String) : PageResponse :=
  ⟨status, some contentType, body.utf8ByteSize, none, body⟩

def notFound : PageResponse := empty 404

/-- The page cannot be asked for in this way. -/
def methodNotAllowed : PageResponse := { empty 405 with allow := some "GET,HEAD" }

def withoutBody (response : PageResponse) : PageResponse := { response with body := "" }

end PageResponse

inductive Page where
  | health
  | ready
  | config
  | registry
  | sync
deriving DecidableEq

namespace Page

def all : List Page := [health, ready, config, registry, sync]

def path : Page → String
  | health => "/health"
  | ready => "/ready"
  | config => "/debug/configz"
  | registry => "/debug/registryz"
  | sync => "/debug/syncz"

def ofPath (path : String) : Option Page :=
  all.find? fun page => page.path = path

/-- No two pages have the same path. -/
@[simp]
theorem ofPath_path (page : Page) : ofPath page.path = some page := by
  cases page <;> decide

end Page

/-- An answer with a value of the debug pages. -/
def PageResponse.json (value : Json) : PageResponse :=
  withBody 200 "application/json" value.compact

namespace ControlPlane

def content (plane : ControlPlane) : Page → PageResponse
  | .health => .withBody 200 "text/plain; charset=utf-8" "OK"
  | .ready => .empty (if plane.health.ready then 200 else 503)
  | .config => .json plane.config.toJson
  | .registry => .json plane.registry.toJson
  | .sync => .json plane.counters.toJson

def answer (plane : ControlPlane) (request : PageRequest) : PageResponse :=
  match Page.ofPath request.path with
  | none => .notFound
  | some page =>
    if request.method = "GET" then plane.content page
    else if request.method = "HEAD" then (plane.content page).withoutBody
    else .methodNotAllowed

/-- Who gets a page sees what it shows. -/
theorem answer_get {request : PageRequest} {page : Page} (asked : request.method = "GET")
    (found : request.path = page.path) (plane : ControlPlane) :
    plane.answer request = plane.content page := by
  unfold answer
  rw [found, Page.ofPath_path]
  exact if_pos asked

end ControlPlane

end MeshControl
