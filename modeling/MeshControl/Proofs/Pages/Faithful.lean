import MeshControl.Proofs.Json.RoundTrip
import MeshControl.Proofs.Sync.Passes

/-!
The debug pages are faithful.

Each of the three pages shows one part of a control plane as JSON. A program that reads the page can
rebuild that part: it looks up every field by its name and takes it for what it is, without relying
on the order or the layout of the text. So a page tells apart whatever differs, an absent directory
from one without a name included. What a control plane was built from stays as it is while its sync
task runs, so two of the pages never change; the third follows the counters.

Main statement: `run_pages`.
-/

namespace MeshControl

/-! ## Taking values apart -/

namespace Json

/-- The value of a field of a record. -/
def field? (name : String) : Json → Option Json
  | record fields => fields.lookup name
  | _ => none

def text? : Json → Option String
  | text content => some content
  | _ => none

def number? : Json → Option Nat
  | number value => some value
  | _ => none

def list? : Json → Option (List Json)
  | list items => some items
  | _ => none

/-- A text, or its absence. -/
def optionalText? : Json → Option (Option String)
  | null => some none
  | text content => some (some content)
  | _ => none

theorem optionalText?_optionalText (content : Option String) :
    (optionalText content).optionalText? = some content := by
  cases content <;> rfl

end Json

def Config.ofJson (json : Json) : Option Config := do
  let namespaceName ← (← json.field? "namespace").text?
  let http ← (← json.field? "http_bind_address").text?
  let grpc ← (← json.field? "grpc_bind_address").text?
  let secureGrpc ← (← json.field? "secure_grpc_bind_address").text?
  let configDir ← (← json.field? "config_dir").optionalText?
  let certDir ← (← json.field? "cert_dir").text?
  let registries ← (← (← json.field? "registries").list?).mapM Json.text?
  let refreshDelayMs ← (← json.field? "refresh_delay_ms").number?
  let maxMessageSize ← (← json.field? "max_message_size").number?
  return {
    namespaceName, bindAddress := { http, grpc, secureGrpc }, configDir, certDir, registries
    refreshDelayMs, maxMessageSize }

theorem Config.ofJson_toJson (config : Config) : ofJson config.toJson = some config := by
  have name (content : String) : (Json.text content).text? = some content := rfl
  have names : (config.registries.map Json.text).mapM Json.text? = some config.registries :=
    Text.mapM_map_of_reads name config.registries
  simp [ofJson, toJson, Json.field?, Json.text?, Json.number?, Json.list?, List.lookup_cons,
    Json.optionalText?_optionalText, names]

def Service.ofJson (json : Json) : Option Service := do
  let hostname ← (← json.field? "hostname").text?
  let namespaceName ← (← json.field? "namespace").text?
  let port ← (← json.field? "port").number?
  let registry ← (RegistryKind.ofName (← (← json.field? "registry").text?)).toOption
  return { hostname, namespaceName, port, registry }

theorem Service.ofJson_toJson (service : Service) : ofJson service.toJson = some service := by
  have title : (RegistryKind.ofName service.registry.title).toOption = some service.registry := by
    cases service.registry
    rfl
  simp [ofJson, toJson, Json.field?, Json.text?, Json.number?, List.lookup_cons, title]

def ServiceRegistry.ofJson (json : Json) : Option ServiceRegistry := do
  let services ← (← json.list?).mapM Service.ofJson
  return ⟨services⟩

theorem ServiceRegistry.ofJson_toJson (registry : ServiceRegistry) :
    ofJson registry.toJson = some registry := by
  have services : (registry.services.map Service.toJson).mapM Service.ofJson =
      some registry.services := Text.mapM_map_of_reads Service.ofJson_toJson registry.services
  simp [ofJson, toJson, Json.list?, services]

def SyncCounters.ofJson (json : Json) : Option SyncCounters := do
  let syncs ← (← json.field? "syncs").number?
  let resources ← (← json.field? "resources").number?
  return { syncs, resources }

theorem SyncCounters.ofJson_toJson (counters : SyncCounters) :
    ofJson counters.toJson = some counters := by
  simp [ofJson, toJson, Json.field?, Json.number?, List.lookup_cons]

/-! ## Pages -/

/-- What the JSON of a page shows to a reader that knows what it is to show. -/
def PageResponse.shown {Shown : Type} (ofJson : Json → Option Shown) (response : PageResponse) :
    Option Shown :=
  (Json.read response.body).bind ofJson

/-- A page that shows a part of the control plane is read back as that part. -/
theorem ControlPlane.shown_answer {Part : Type} {toJson : Part → Json} {ofJson : Json → Option Part}
    (reads : ∀ part, ofJson (toJson part) = some part) {request : PageRequest} {page : Page}
    (asked : request.method = "GET") (found : request.path = page.path) {plane : ControlPlane}
    {part : Part} (shows : plane.content page = .json (toJson part)) :
    (plane.answer request).shown ofJson = some part := by
  rw [answer_get asked found, shows, PageResponse.shown, PageResponse.json, PageResponse.withBody,
    Json.read_compact, Option.bind_some, reads]

/-! ## What does not change -/

/-- What a control plane was built from. -/
def ControlPlane.built (plane : ControlPlane) : Config × ServiceRegistry :=
  (plane.config, plane.registry)

namespace Sync

theorem built_catchUp (files : FileTree) (now : Nat) (ticker : Ticker) (plane : ControlPlane) :
    (catchUp files now ticker plane).2.built = plane.built := by
  fun_induction catchUp files now ticker plane with
  | case1 ticker plane due inductionHypothesis => exact inductionHypothesis
  | case2 ticker plane ahead => rfl

theorem built_advance (state : Sync) (stretch : Nat) :
    (state.advance stretch).plane.built = state.plane.built := by
  unfold advance
  split
  · exact built_catchUp _ _ _ _
  · rfl

theorem built_step (state : Sync) (next : Step) :
    (state.step next).plane.built = state.plane.built := by
  cases next with
  | spawn | firstPass =>
      simp only [step]
      split <;> rfl
  | advance milliseconds => exact built_advance state milliseconds
  | join =>
      simp only [step, join]
      split
      · split <;> rfl
      · rfl
  | cancel | changeFiles | setReady | request | check => rfl

theorem built_run (state : Sync) (steps : List Step) :
    (state.run steps).plane.built = state.plane.built := by
  induction steps generalizing state with
  | nil => rfl
  | cons next rest inductionHypothesis =>
      exact (inductionHypothesis (state.step next)).trans (built_step state next)

/-- The debug pages tell what they show, at any moment of the life of a sync task.

The configuration is read from its page just as the control plane was built from it, and the services
in their order. Neither page changes while the task runs. Control planes whose configuration pages
are the same text have the same configuration, whatever happened to either of them. The counters are
read from their page as they are at the time. -/
theorem run_pages (plane : ControlPlane) (files : FileTree) (steps : List Step)
    {request : PageRequest} (asked : request.method = "GET") :
    let state := (ofPlane plane files).run steps
    let page := state.plane.answer request
    (request.path = Page.config.path →
      page.shown Config.ofJson = some plane.config ∧
      page.body = (plane.answer request).body ∧
      ∀ other otherFiles otherSteps,
        page.body = (((ofPlane other otherFiles).run otherSteps).plane.answer request).body →
          plane.config = other.config) ∧
    (request.path = Page.registry.path →
      page.shown ServiceRegistry.ofJson = some plane.registry ∧
      page.body = (plane.answer request).body) ∧
    (request.path = Page.sync.path →
      page.shown SyncCounters.ofJson = some state.plane.counters) := by
  intro state page
  have built : state.plane.built = plane.built := built_run (ofPlane plane files) steps
  have config : state.plane.config = plane.config := congrArg Prod.fst built
  have registry : state.plane.registry = plane.registry := congrArg Prod.snd built
  have shows (any : ControlPlane) (found : request.path = Page.config.path) :
      (any.answer request).shown Config.ofJson = some any.config :=
    ControlPlane.shown_answer Config.ofJson_toJson asked found rfl
  refine ⟨?_, ?_, ?_⟩
  · intro found
    have shown : page.shown Config.ofJson = some plane.config := config ▸ shows state.plane found
    refine ⟨shown, ?_, ?_⟩
    · simp only [page, ControlPlane.answer_get asked found, ControlPlane.content, config]
    · intro other otherFiles otherSteps same
      have otherConfig : ((ofPlane other otherFiles).run otherSteps).plane.config = other.config :=
        congrArg Prod.fst (built_run (ofPlane other otherFiles) otherSteps)
      have otherShown := shows ((ofPlane other otherFiles).run otherSteps).plane found
      rw [PageResponse.shown, ← same, ← PageResponse.shown, shown, otherConfig] at otherShown
      exact Option.some.inj otherShown
  · intro found
    have shown : page.shown ServiceRegistry.ofJson = some state.plane.registry :=
      ControlPlane.shown_answer ServiceRegistry.ofJson_toJson asked found rfl
    refine ⟨registry ▸ shown, ?_⟩
    simp only [page, ControlPlane.answer_get asked found, ControlPlane.content, registry]
  · intro found
    exact ControlPlane.shown_answer SyncCounters.ofJson_toJson asked found rfl

/-- A configuration whose texts need escapes. Its directory has a name that is written like an absent
one. -/
def awkward : Config :=
  { watchful with namespaceName := "a \"mesh\"\\\x01\n", configDir := some "null" }

/-- The page of the awkward configuration is read back while the task runs, and differs from the page
of the configuration without a directory. -/
theorem run_pages_awkward :
    ∃ plane other,
      ControlPlane.ofConfig awkward = .ok plane ∧
      ControlPlane.ofConfig { awkward with configDir := none } = .ok other ∧
      let page := ((ofPlane plane watched).run [.spawn, .firstPass, .advance 20]).plane.answer
        ⟨"GET", "/debug/configz?pretty", ""⟩
      page.shown Config.ofJson = some awkward ∧
      page.body ≠ (((ofPlane other watched).run [.spawn]).plane.answer
        ⟨"GET", "/debug/configz?pretty", ""⟩).body := by
  have plannable : ∃ plane other, ControlPlane.ofConfig awkward = .ok plane ∧
      ControlPlane.ofConfig { awkward with configDir := none } = .ok other := ⟨_, _, rfl, rfl⟩
  rcases plannable with ⟨plane, other, planned, otherPlanned⟩
  have found : PageRequest.path ⟨"GET", "/debug/configz?pretty", ""⟩ = Page.config.path := by
    decide +kernel
  rcases (run_pages plane watched [.spawn, .firstPass, .advance 20] rfl).1 found with ⟨shown, _, tells⟩
  rw [(ControlPlane.ofConfig_ok planned).1] at shown tells
  refine ⟨plane, other, planned, otherPlanned, shown, ?_⟩
  intro same
  have configs := tells other watched [.spawn] same
  rw [(ControlPlane.ofConfig_ok otherPlanned).1] at configs
  cases congrArg Config.configDir configs

end Sync

end MeshControl
