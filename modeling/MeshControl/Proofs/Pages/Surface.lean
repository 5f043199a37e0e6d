import MeshControl.Proofs.Text.Cutting
import MeshControl.Sync

/-!
What the HTTP listener answers, to any request and at any moment.

A page is found by the path of a request alone. What a target has for a path is said here without
the reader: a part of the target that ends where a query or a fragment begins, alone or behind a
scheme and a host. Nothing in it is decoded or left out, so a target with any other path has no page,
however much it looks like one that has. The method of the request is looked at only after the page is
found. That two methods get the same answer but for the body, and that nobody else has a say in the
answer, is then a matter of the five pages.

Main statement: `Sync.run_serves`.
-/

namespace MeshControl

/-! ## Paths -/

namespace PageRequest

/-- A part of a target in front of its query and its fragment. -/
def IsPart (text : List Char) : Prop :=
  '?' ∉ text ∧ '#' ∉ text

/-- A query or a fragment, or nothing. -/
def IsRest (text : List Char) : Prop :=
  ∀ first, text.head? = some first → first = '?' ∨ first = '#'

/-- The path of a target, which begins with a slash. A target has one alone, or behind a scheme and a
host; there it may be missing, which is the same as a slash. -/
inductive TargetPath : List Char → List Char → Prop where
  | alone {path rest : List Char} :
      path.head? = some '/' → IsPart path → IsRest rest → TargetPath (path ++ rest) path
  | behind {scheme host path rest : List Char} :
      scheme.head? ≠ some '/' → ':' ∉ scheme → '/' ∉ host → path.head? = some '/' →
      IsPart (scheme ++ "://".toList ++ host ++ path) → IsRest rest →
      TargetPath (scheme ++ "://".toList ++ host ++ path ++ rest) path
  | missing {scheme host rest : List Char} :
      scheme.head? ≠ some '/' → ':' ∉ scheme → '/' ∉ host →
      IsPart (scheme ++ "://".toList ++ host) → IsRest rest →
      TargetPath (scheme ++ "://".toList ++ host ++ rest) ['/']

/-- The path of a request as it stands in its target. -/
def HasPath (request : PageRequest) (path : String) : Prop :=
  TargetPath request.target.toList path.toList

theorem resource_append {part rest : List Char} (isPart : IsPart part) (isRest : IsRest rest) :
    resource (part ++ rest) = part := by
  have kept : ∀ c ∈ part, (c ≠ '?' && c ≠ '#') = true := by
    intro c member
    simp only [Bool.and_eq_true, decide_eq_true_eq]
    exact ⟨fun same => isPart.1 (same ▸ member), fun same => isPart.2 (same ▸ member)⟩
  have ends : ∀ c ∈ rest.head?, (c ≠ '?' && c ≠ '#') = false := by
    intro c first
    rcases isRest c first with rfl | rfl <;> rfl
  exact Text.takeWhile_append_of_ends kept ends

theorem isPart_resource (target : List Char) : IsPart (resource target) := by
  have kept {c : Char} (member : c ∈ resource target) : c ≠ '?' ∧ c ≠ '#' := by
    simpa using List.mem_takeWhile_imp member
  exact ⟨fun member => (kept member).1 rfl, fun member => (kept member).2 rfl⟩

/-- A target is what stands in front of its query and its fragment, and these. -/
theorem exists_rest (target : List Char) :
    ∃ rest, IsRest rest ∧ target = resource target ++ rest := by
  refine ⟨target.dropWhile fun c => c ≠ '?' && c ≠ '#', ?_, List.takeWhile_append_dropWhile.symm⟩
  intro first ahead
  have marked := List.head?_dropWhile_not (fun c => c ≠ '?' && c ≠ '#') target
  rw [ahead] at marked
  simpa [or_iff_not_imp_left] using marked

/-! ## Finding the path -/

theorem afterScheme_append {scheme : List Char} (single : ':' ∉ scheme) (rest : List Char) :
    afterScheme (scheme ++ "://".toList ++ rest) = some rest := by
  have kept : (scheme ++ ("://".toList ++ rest)).dropWhile (· ≠ ':') = "://".toList ++ rest :=
    Text.dropWhile_append_mark single _
  rw [afterScheme, List.append_assoc, kept]
  rfl

theorem eq_of_afterScheme {text rest : List Char} (found : afterScheme text = some rest) :
    ∃ scheme, ':' ∉ scheme ∧ text = scheme ++ "://".toList ++ rest := by
  unfold afterScheme at found
  split at found
  case h_1 behind =>
    cases found
    have whole : text = text.takeWhile (· ≠ ':') ++ text.dropWhile (· ≠ ':') :=
      List.takeWhile_append_dropWhile.symm
    rw [behind] at whole
    refine ⟨text.takeWhile (· ≠ ':'), Text.not_mem_takeWhile text, ?_⟩
    rw [List.append_assoc]
    exact whole
  case h_2 => cases found

theorem dropWhile_host {host : List Char} (single : '/' ∉ host) {path : List Char}
    (slash : path = [] ∨ path.head? = some '/') :
    (host ++ path).dropWhile (· ≠ '/') = path := by
  rcases slash with rfl | slash
  · exact Text.dropWhile_append_of_ends (Text.ne_of_not_mem single) (by rintro c ⟨⟩)
  · rcases List.head?_eq_some_iff.mp slash with ⟨others, rfl⟩
    exact Text.dropWhile_append_mark single others

/-- The path of an absolute target is what follows the host. -/
theorem pathOf_absolute {target scheme host path : List Char} (other : scheme.head? ≠ some '/')
    (single : ':' ∉ scheme) (plain : '/' ∉ host) (slash : path = [] ∨ path.head? = some '/')
    (absolute : resource target = scheme ++ "://".toList ++ host ++ path) :
    pathOf target = if path = [] then ['/'] else path := by
  have unslashed (rest : List Char) : resource target ≠ '/' :: rest := by
    rw [absolute]
    cases scheme with
    | nil => nofun
    | cons first others =>
        intro same
        cases same
        exact other rfl
  rw [List.append_assoc] at absolute
  have found : afterScheme (resource target) = some (host ++ path) := by
    rw [absolute]
    exact afterScheme_append single (host ++ path)
  unfold pathOf
  split
  case h_1 rest same => exact absurd same (unslashed rest)
  case h_2 =>
    simp only [found, dropWhile_host plain slash]
    cases path <;> rfl

theorem TargetPath.of_absolute {target scheme text : List Char}
    (other : scheme.head? ≠ some '/') (single : ':' ∉ scheme)
    (absolute : resource target = scheme ++ "://".toList ++ text) :
    TargetPath target (match text.dropWhile (· ≠ '/') with
      | [] => ['/']
      | path => path) := by
  rcases exists_rest target with ⟨rest, isRest, whole⟩
  have isPart := isPart_resource target
  have plain : '/' ∉ text.takeWhile (· ≠ '/') := Text.not_mem_takeWhile text
  have parts : text = text.takeWhile (· ≠ '/') ++ text.dropWhile (· ≠ '/') :=
    List.takeWhile_append_dropWhile.symm
  have slash := List.head?_dropWhile_not (· ≠ '/') text
  generalize text.takeWhile (· ≠ '/') = host at plain parts
  generalize text.dropWhile (· ≠ '/') = path at parts slash ⊢
  rw [absolute, parts, ← List.append_assoc] at isPart
  rw [whole, absolute, parts, ← List.append_assoc]
  cases path with
  | nil =>
      rw [List.append_nil] at isPart ⊢
      exact .missing other single plain isPart isRest
  | cons first others =>
      have first_eq : first = '/' := by simpa using slash
      exact .behind other single plain (congrArg some first_eq) isPart isRest

theorem pathOf_of_targetPath {target path : List Char} (has : TargetPath target path) :
    pathOf target = path ∧ path ≠ [] := by
  cases has with
  | alone slash isPart isRest =>
      rcases List.head?_eq_some_iff.mp slash with ⟨others, rfl⟩
      refine ⟨?_, List.cons_ne_nil _ _⟩
      rw [pathOf, resource_append isPart isRest]
      rfl
  | behind other single plain slash isPart isRest =>
      have found := pathOf_absolute other single plain (.inr slash) (resource_append isPart isRest)
      have filled : path ≠ [] := by
        rintro rfl
        cases slash
      rw [if_neg filled] at found
      exact ⟨found, filled⟩
  | @missing scheme host rest other single plain isPart isRest =>
      have absolute : resource (scheme ++ "://".toList ++ host ++ rest) =
          scheme ++ "://".toList ++ host ++ [] := by
        rw [resource_append isPart isRest, List.append_nil]
      exact ⟨pathOf_absolute other single plain (.inl rfl) absolute, List.cons_ne_nil _ _⟩

theorem targetPath_pathOf {target : List Char} (filled : pathOf target ≠ []) :
    TargetPath target (pathOf target) := by
  unfold pathOf at filled ⊢
  split
  case h_1 others same =>
    rcases exists_rest target with ⟨rest, isRest, whole⟩
    have isPart := isPart_resource target
    rw [same] at whole isPart
    rw [whole]
    exact .alone rfl isPart isRest
  case h_2 unslashed =>
    cases found : afterScheme (resource target) with
    | none =>
        simp only [found] at filled
        exact absurd rfl filled
    | some text =>
        rcases eq_of_afterScheme found with ⟨scheme, single, absolute⟩
        refine .of_absolute ?_ single absolute
        intro slash
        rcases List.head?_eq_some_iff.mp slash with ⟨others, rfl⟩
        exact unslashed _ absolute

/-- The path that is found is the one that the target has. -/
theorem hasPath_iff {request : PageRequest} {path : String} :
    request.HasPath path ↔ request.path = path ∧ path ≠ "" := by
  have same : request.path = path ↔ pathOf request.target.toList = path.toList := by
    rw [PageRequest.path, ← String.toList_inj, String.toList_ofList]
  have filled : path ≠ "" ↔ path.toList ≠ [] := by
    rw [Ne, ← String.toList_inj]
    rfl
  rw [same, filled]
  constructor
  · exact pathOf_of_targetPath
  · rintro ⟨found, filled⟩
    rw [← found] at filled
    have has := targetPath_pathOf filled
    rwa [found] at has

end PageRequest

/-! ## Pages -/

/-- The paths at which there are pages. -/
def pagePaths : List String :=
  ["/health", "/ready", "/debug/configz", "/debug/registryz", "/debug/syncz"]

namespace Page

theorem path_ne_empty (page : Page) : page.path ≠ "" := by
  cases page <;> decide

theorem ofPath_eq_some_iff {path : String} {page : Page} :
    ofPath path = some page ↔ path = page.path := by
  constructor
  · intro found
    have same := List.find?_some found
    exact (of_decide_eq_true same).symm
  · rintro rfl
    exact ofPath_path page

theorem mem_pagePaths_iff {path : String} : path ∈ pagePaths ↔ ∃ page : Page, path = page.path := by
  constructor
  · intro member
    have listed : pagePaths = all.map Page.path := rfl
    rw [listed] at member
    rcases List.mem_map.mp member with ⟨page, -, same⟩
    exact ⟨page, same.symm⟩
  · rintro ⟨page, rfl⟩
    cases page <;> decide

/-- A request has a page if it has the path of one. -/
theorem exists_ofPath_iff {request : PageRequest} :
    (∃ page, ofPath request.path = some page) ↔ ∃ path ∈ pagePaths, request.HasPath path := by
  constructor
  · rintro ⟨page, found⟩
    have same := ofPath_eq_some_iff.mp found
    exact ⟨page.path, mem_pagePaths_iff.mpr ⟨page, rfl⟩,
      PageRequest.hasPath_iff.mpr ⟨same, page.path_ne_empty⟩⟩
  · rintro ⟨path, member, has⟩
    rcases mem_pagePaths_iff.mp member with ⟨page, rfl⟩
    exact ⟨page, ofPath_eq_some_iff.mpr (PageRequest.hasPath_iff.mp has).1⟩

end Page

/-! ## Answers -/

namespace ControlPlane

/-- What is sent is as long as the answer says. -/
theorem contentLength_content (plane : ControlPlane) (page : Page) :
    (plane.content page).contentLength = (plane.content page).body.utf8ByteSize := by
  have json (value : Json) : (PageResponse.json value).contentLength =
      (PageResponse.json value).body.utf8ByteSize := by
    rw [PageResponse.json, PageResponse.withBody]
  cases page with
  | health | ready => rfl
  | config | registry | sync => exact json _

/-- Only the readiness page ever says no. -/
theorem status_content (plane : ControlPlane) (page : Page) :
    (plane.content page).status =
      if page.path = "/ready" ∧ plane.health.ready = false then 503 else 200 := by
  cases page with
  | ready => cases ready : plane.health.ready <;> simp [content, ready, Page.path, PageResponse.empty]
  | health | config | registry | sync => rfl

theorem answer_of_page {request : PageRequest} {page : Page}
    (found : Page.ofPath request.path = some page) (plane : ControlPlane) :
    plane.answer request =
      if request.method = "GET" then plane.content page
      else if request.method = "HEAD" then (plane.content page).withoutBody
      else .methodNotAllowed := by
  rw [answer, found]

theorem answer_of_no_page {request : PageRequest} (missing : Page.ofPath request.path = none)
    (plane : ControlPlane) : plane.answer request = .notFound := by
  rw [answer, missing]

/-- A page that is found is answered with its own status, unless it is asked for in another way. -/
theorem status_answer_of_page {request : PageRequest} {page : Page}
    (found : Page.ofPath request.path = some page) (plane : ControlPlane) :
    (plane.answer request).status =
      if request.method = "GET" ∨ request.method = "HEAD" then (plane.content page).status
      else 405 := by
  rw [answer_of_page found]
  by_cases get : request.method = "GET"
  · rw [if_pos get, if_pos (.inl get)]
  · by_cases head : request.method = "HEAD"
    · rw [if_neg get, if_pos head, if_pos (.inr head)]
      rfl
    · rw [if_neg get, if_neg head, if_neg (not_or.mpr ⟨get, head⟩)]
      rfl

theorem status_answer_eq_404_iff (plane : ControlPlane) (request : PageRequest) :
    (plane.answer request).status = 404 ↔ Page.ofPath request.path = none := by
  cases found : Page.ofPath request.path with
  | none => simp [answer_of_no_page found, PageResponse.notFound, PageResponse.empty]
  | some page =>
      rw [status_answer_of_page found, status_content]
      split_ifs <;> simp

/-- Who asks for the head of an answer gets the answer without its body. -/
theorem answer_head (plane : ControlPlane) (target body : String) :
    plane.answer ⟨"HEAD", target, body⟩ = (plane.answer ⟨"GET", target, body⟩).withoutBody := by
  have same : PageRequest.path ⟨"HEAD", target, body⟩ = PageRequest.path ⟨"GET", target, body⟩ := rfl
  cases found : Page.ofPath (PageRequest.path ⟨"GET", target, body⟩) with
  | none =>
      rw [answer_of_no_page found, answer_of_no_page (same ▸ found)]
      rfl
  | some page =>
      rw [answer_of_page found, answer_of_page (same ▸ found)]
      rfl

theorem contentLength_answer_get (plane : ControlPlane) (target body : String) :
    (plane.answer ⟨"GET", target, body⟩).contentLength =
      (plane.answer ⟨"GET", target, body⟩).body.utf8ByteSize := by
  cases found : Page.ofPath (PageRequest.path ⟨"GET", target, body⟩) with
  | none =>
      rw [answer_of_no_page found]
      rfl
  | some page =>
      rw [answer_of_page found, if_pos rfl]
      exact plane.contentLength_content page

/-- Only the method and the path of a request are looked at. -/
theorem answer_congr {first second : PageRequest} (method : first.method = second.method)
    (path : first.path = second.path) (plane : ControlPlane) :
    plane.answer first = plane.answer second := by
  rw [answer, answer, method, path]

end ControlPlane

theorem PageRequest.path_eq_of_hasPath {first second : PageRequest}
    (same : ∀ path, first.HasPath path ↔ second.HasPath path) : first.path = second.path := by
  by_cases filled : first.path = ""
  · by_cases filled' : second.path = ""
    · rw [filled, filled']
    · have has := (same second.path).mpr (PageRequest.hasPath_iff.mpr ⟨rfl, filled'⟩)
      exact (PageRequest.hasPath_iff.mp has).1
  · have has := (same first.path).mp (PageRequest.hasPath_iff.mpr ⟨rfl, filled⟩)
    exact (PageRequest.hasPath_iff.mp has).1.symm

/-! ## Runs -/

namespace Sync

/-- A request leaves no trace in a run. -/
theorem run_request (start : Sync) (earlier later : List Step) (request : PageRequest) :
    start.run (earlier ++ .request request :: later) = start.run (earlier ++ later) := by
  rw [run, run, List.foldl_append, List.foldl_append, List.foldl_cons]
  rfl

/-- The HTTP listener at any moment of a run.

A target whose path is not that of a page, as it stands there, is not found; this is said without a
body. A page that is found can be asked for in two ways, and any other way is refused. The status is a
matter of the path, and of the readiness flag for one of them. Who asks for the head of an answer gets
its status, its type and the length of its body in bytes, but no body. Requests with the same method and
the same path get the same answer, whatever else is in them, and a request that is left out of a run
changes nothing that comes after it. -/
theorem run_serves (start : Sync) (steps : List Step) :
    let state := start.run steps
    (∀ request, (state.plane.answer request).status = 404 ↔
      ¬ ∃ path ∈ pagePaths, request.HasPath path) ∧
    (∀ request, (state.plane.answer request).status = 404 →
      state.plane.answer request = ⟨404, none, 0, none, ""⟩) ∧
    (∀ request, ∀ path ∈ pagePaths, request.HasPath path →
      (request.method ≠ "GET" → request.method ≠ "HEAD" →
        state.plane.answer request = ⟨405, none, 0, some "GET,HEAD", ""⟩) ∧
      (request.method = "GET" ∨ request.method = "HEAD" →
        (state.plane.answer request).status =
          if path = "/ready" ∧ state.plane.health.ready = false then 503 else 200)) ∧
    (∀ target body,
      let get := state.plane.answer ⟨"GET", target, body⟩
      let head := state.plane.answer ⟨"HEAD", target, body⟩
      head.status = get.status ∧ head.contentType = get.contentType ∧ head.body = "" ∧
        head.contentLength = get.body.utf8ByteSize) ∧
    (∀ first second : PageRequest, first.method = second.method →
      (∀ path, first.HasPath path ↔ second.HasPath path) →
        state.plane.answer first = state.plane.answer second) ∧
    ∀ request later, start.run (steps ++ .request request :: later) = start.run (steps ++ later) := by
  intro state
  refine ⟨?_, ?_, ?_, ?_, ?_, ?_⟩
  · intro request
    rw [ControlPlane.status_answer_eq_404_iff, ← Page.exists_ofPath_iff, ← Option.isSome_iff_exists,
      Option.not_isSome_iff_eq_none]
  · intro request missing
    have unpaged := (state.plane.status_answer_eq_404_iff request).mp missing
    exact ControlPlane.answer_of_no_page unpaged state.plane
  · intro request path member has
    rcases Page.mem_pagePaths_iff.mp member with ⟨page, rfl⟩
    have found : Page.ofPath request.path = some page :=
      Page.ofPath_eq_some_iff.mpr (PageRequest.hasPath_iff.mp has).1
    constructor
    · intro noGet noHead
      rw [ControlPlane.answer_of_page found, if_neg noGet, if_neg noHead]
      rfl
    · intro asked
      rw [ControlPlane.status_answer_of_page found, if_pos asked, ControlPlane.status_content]
  · intro target body get head
    have same : head = get.withoutBody := state.plane.answer_head target body
    have length : get.contentLength = get.body.utf8ByteSize :=
      state.plane.contentLength_answer_get target body
    clear_value get
    rw [same, ← length]
    exact ⟨rfl, rfl, rfl, rfl⟩
  · intro first second method paths
    exact ControlPlane.answer_congr method (PageRequest.path_eq_of_hasPath paths) state.plane
  · intro request later
    exact run_request start steps later request

end Sync

end MeshControl
