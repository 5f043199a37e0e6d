import Mathlib.Data.List.Forall2
import MeshControl.Proofs.Harness.AddressGrammar

/-!
Which listeners are asked about when the endpoints of a server are resolved.

Where the addresses come from is left open: an answer may depend on all that was asked before, and a
question may change what is answered later. So it matters how often and in which order the questions are
put. They are told by a record that is kept beside the source. Resolving puts them one after the other,
and goes on to the next one only if the answer to the last could be published.

Main statement: `resolve_asks`.
-/

namespace MeshControl.Harness.Endpoints

/-! ## Questions and answers -/

/-- Where addresses come from. A question may change the state on which the answers depend. -/
abbrev Source (State : Type) := Listener → StateM State (Option String)

/-- A question about a listener, and the answer that was given. -/
structure Exchange where
  listener : Listener
  answer : Option String
deriving DecidableEq

/-- The answer is the address of an endpoint of that listener. -/
def Exchange.Resolves (exchange : Exchange) (endpoint : Endpoint) : Prop :=
  ∃ address, exchange.answer = some address ∧
    Endpoint.resolve exchange.listener address = .ok endpoint

/-- The error is about that listener and its answer, which is no address or none that can be
published. -/
def Exchange.Blames (exchange : Exchange) (error : HarnessError) : Prop :=
  exchange.answer = none ∧ error = .addressFormat exchange.listener "" .notBound ∨
    ∃ address fault, exchange.answer = some address ∧
      Endpoint.IsMalformed address.toList fault ∧
      error = .addressFormat exchange.listener address fault

theorem resolveOne_eq_ok_iff {listener : Listener} {answer : Option String} {endpoint : Endpoint} :
    resolveOne listener answer = .ok endpoint ↔ Exchange.Resolves ⟨listener, answer⟩ endpoint := by
  cases answer with
  | none => simp [resolveOne, Exchange.Resolves]
  | some address => simp [resolveOne, Exchange.Resolves]

theorem resolveOne_eq_error_iff {listener : Listener} {answer : Option String}
    {error : HarnessError} :
    resolveOne listener answer = .error error ↔ Exchange.Blames ⟨listener, answer⟩ error := by
  cases answer with
  | none => simp [resolveOne, Exchange.Blames, eq_comm]
  | some address =>
      simp [resolveOne, Exchange.Blames, Endpoint.resolve_eq_error_iff,
        Endpoint.ofBound_eq_error_iff]

theorem Exchange.Blames.not_resolves {exchange : Exchange} {error : HarnessError}
    {endpoint : Endpoint} (blames : exchange.Blames error) : ¬ exchange.Resolves endpoint := by
  intro resolves
  have refused := resolveOne_eq_error_iff.mpr blames
  rw [resolveOne_eq_ok_iff.mpr resolves] at refused
  cases refused

variable {State : Type}

/-- The source with a record of what it was asked and what it answered. -/
def Source.recorded (source : Source State) : Source (State × List Exchange) :=
  fun listener => do
    let (state, record) ← get
    let (answer, next) := (source listener).run state
    set (next, record ++ [⟨listener, answer⟩])
    return answer

theorem run_recorded {source : Source State} {listener : Listener} {state next : State}
    {answer : Option String} (asks : (source listener).run state = (answer, next))
    (record : List Exchange) :
    (source.recorded listener).run (state, record) =
      (answer, next, record ++ [⟨listener, answer⟩]) := by
  simp [Source.recorded, asks]
  rfl

/-- The endpoint of one listener, for which one question is asked. -/
def Source.endpoint (source : Source State) (listener : Listener) :
    ExceptT HarnessError (StateM State) Endpoint :=
  ExceptT.mk (resolveOne listener <$> source listener)

theorem run_endpoint {source : Source State} {listener : Listener} {state next : State}
    {answer : Option String} (asks : (source listener).run state = (answer, next)) :
    (source.endpoint listener).run.run state = (resolveOne listener answer, next) := by
  simp [Source.endpoint, asks]
  rfl

section Binding

variable {α β : Type} {first : ExceptT HarnessError (StateM State) α}
  {later : α → ExceptT HarnessError (StateM State) β} {state next : State}

theorem run_bind_of_ok {value : α} (found : first.run.run state = (.ok value, next)) :
    (first >>= later).run.run state = (later value).run.run next := by
  rw [ExceptT.run_bind, StateT.run_bind, found]
  rfl

theorem run_bind_of_error {error : HarnessError}
    (failed : first.run.run state = (.error error, next)) :
    (first >>= later).run.run state = (.error error, next) := by
  rw [ExceptT.run_bind, StateT.run_bind, failed]
  rfl

end Binding

/-! ## One question after the other -/

/-- Questions about some listeners are put to a source in some state, up to the first answer that
cannot be published: the exchanges, the endpoints found, the error if there is one, and the state in
which the source is left. -/
inductive Interview (source : Source State) :
    List Listener → State → List Exchange → List Endpoint → Option HarnessError → State → Prop where
  | done {state : State} : Interview source [] state [] [] none state
  | refused {listener : Listener} {later : List Listener} {state next : State}
      {answer : Option String} {error : HarnessError} :
      (source listener).run state = (answer, next) → Exchange.Blames ⟨listener, answer⟩ error →
        Interview source (listener :: later) state [⟨listener, answer⟩] [] (some error) next
  | resolved {listener : Listener} {later : List Listener} {state next last : State}
      {answer : Option String} {endpoint : Endpoint} {exchanges : List Exchange}
      {endpoints : List Endpoint} {error : Option HarnessError} :
      (source listener).run state = (answer, next) →
        Exchange.Resolves ⟨listener, answer⟩ endpoint →
        Interview source later next exchanges endpoints error last →
        Interview source (listener :: later) state (⟨listener, answer⟩ :: exchanges)
          (endpoint :: endpoints) error last

theorem exists_interview (source : Source State) (listeners : List Listener) (state : State) :
    ∃ exchanges endpoints error last,
      Interview source listeners state exchanges endpoints error last := by
  induction listeners generalizing state with
  | nil => exact ⟨_, _, _, _, .done⟩
  | cons listener later ih =>
      cases asked : (source listener).run state with
      | mk answer next =>
        cases found : resolveOne listener answer with
        | error error =>
            exact ⟨_, _, _, _, .refused asked (resolveOne_eq_error_iff.mp found)⟩
        | ok endpoint =>
            rcases ih next with ⟨exchanges, endpoints, error, last, rest⟩
            exact ⟨_, _, _, _, .resolved asked (resolveOne_eq_ok_iff.mp found) rest⟩

namespace Interview

variable {source : Source State} {listeners : List Listener} {state last : State}
  {exchanges : List Exchange} {endpoints : List Endpoint} {error : Option HarnessError}

/-- Keeping a record changes nothing but the record. -/
theorem recorded (interview : Interview source listeners state exchanges endpoints error last)
    (record : List Exchange) :
    Interview source.recorded listeners (state, record) exchanges endpoints error
      (last, record ++ exchanges) := by
  induction interview generalizing record with
  | done =>
      rw [List.append_nil]
      exact .done
  | refused asks blames => exact .refused (run_recorded asks record) blames
  | @resolved listener _ _ _ _ answer _ _ _ _ asks resolves _ ih =>
      have rest := ih (record ++ [⟨listener, answer⟩])
      rw [List.append_assoc, List.singleton_append] at rest
      exact .resolved (run_recorded asks record) resolves rest

/-- Resolving the listeners one after the other ends as the interview does. -/
theorem run_mapM (interview : Interview source listeners state exchanges endpoints error last) :
    (listeners.mapM source.endpoint).run.run state =
      (error.elim (.ok endpoints) .error, last) := by
  induction interview with
  | done => rfl
  | refused asks blames =>
      have asked := run_endpoint asks
      rw [resolveOne_eq_error_iff.mpr blames] at asked
      rw [List.mapM_cons, run_bind_of_error asked]
      rfl
  | @resolved _ _ _ _ _ _ _ _ _ error asks resolves _ ih =>
      have asked := run_endpoint asks
      rw [resolveOne_eq_ok_iff.mpr resolves] at asked
      rw [List.mapM_cons, run_bind_of_ok asked]
      cases error with
      | none =>
          rw [run_bind_of_ok ih]
          rfl
      | some error =>
          rw [run_bind_of_error ih]
          rfl

/-- The listeners are asked about in their order, and each of them once at most. -/
theorem inOrder (interview : Interview source listeners state exchanges endpoints error last) :
    exchanges.map Exchange.listener <+: listeners := by
  induction interview with
  | done => exact List.prefix_rfl
  | refused => exact ⟨_, rfl⟩
  | resolved _ _ _ ih => exact List.cons_prefix_cons.mpr ⟨rfl, ih⟩

/-- Nothing is asked behind an answer that cannot be published. -/
theorem resolves_of_mem_dropLast
    (interview : Interview source listeners state exchanges endpoints error last) :
    ∀ exchange ∈ exchanges.dropLast, ∃ endpoint, exchange.Resolves endpoint := by
  induction interview with
  | done => exact fun _ member => absurd member List.not_mem_nil
  | refused => exact fun _ member => absurd member List.not_mem_nil
  | @resolved _ _ _ _ _ _ endpoint exchanges _ _ _ resolves _ ih =>
      cases exchanges with
      | nil => exact fun _ member => absurd member List.not_mem_nil
      | cons second others =>
          rw [List.dropLast_cons_cons]
          exact List.forall_mem_cons.mpr ⟨⟨endpoint, resolves⟩, ih⟩

theorem blames_of_some {error : HarnessError}
    (interview : Interview source listeners state exchanges endpoints (some error) last) :
    ∃ exchange ∈ exchanges.getLast?, exchange.Blames error := by
  generalize ended : some error = outcome at interview
  induction interview with
  | done => cases ended
  | refused _ blames =>
      cases ended
      exact ⟨_, rfl, blames⟩
  | resolved _ _ _ ih =>
      rcases ih ended with ⟨exchange, found, blames⟩
      refine ⟨exchange, ?_, blames⟩
      rw [List.getLast?_cons, Option.mem_def.mp found]
      rfl

theorem resolves_of_none
    (interview : Interview source listeners state exchanges endpoints none last) :
    exchanges.map Exchange.listener = listeners ∧
      List.Forall₂ Exchange.Resolves exchanges endpoints := by
  generalize ended : none = outcome at interview
  induction interview with
  | done => exact ⟨rfl, .nil⟩
  | refused => cases ended
  | resolved _ resolves _ ih =>
      rcases ih ended with ⟨all, others⟩
      exact ⟨congrArg _ all, .cons resolves others⟩

end Interview

/-! ## All three listeners -/

theorem toList_forListeners {m : Type → Type} [Monad m] [LawfulMonad m] {α : Type}
    (action : Listener → m α) :
    PerListener.toList <$> PerListener.forListeners action = Listener.all.mapM action := by
  simp [PerListener.forListeners, PerListener.toList, Listener.all]

theorem toList_injective : Function.Injective (@PerListener.toList Endpoint) := by
  rintro ⟨http, grpc, secureGrpc⟩ ⟨http', grpc', secureGrpc'⟩ same
  cases same
  rfl

theorem map_toList_injective {result result' : Except HarnessError Endpoints}
    (same : result.map PerListener.toList = result'.map PerListener.toList) : result = result' := by
  cases result with
  | error error =>
      cases result' with
      | error error' =>
          cases same
          rfl
      | ok endpoints' => cases same
  | ok endpoints =>
      cases result' with
      | error error' => cases same
      | ok endpoints' => exact congrArg _ (toList_injective (Except.ok.inj same))

/-- An interview about all listeners tells what resolving comes to. -/
theorem Interview.run_resolve {source : Source State} {before last : State}
    {exchanges : List Exchange} {endpoints : List Endpoint} {error : Option HarnessError}
    (interview : Interview source Listener.all before exchanges endpoints error last) :
    ∃ result, (resolve source).run before = (result, last) ∧
      result.map PerListener.toList = error.elim (.ok endpoints) .error := by
  have listed := interview.run_mapM
  rw [← toList_forListeners] at listed
  cases resolved : (resolve source).run before with
  | mk result after =>
    have ran : (PerListener.toList <$> PerListener.forListeners source.endpoint).run.run before =
        (result.map PerListener.toList, after) := by
      rw [ExceptT.run_map, StateT.run_map]
      exact congrArg (fun ended => (ended.1.map PerListener.toList, ended.2)) resolved
    rcases Prod.mk.inj (ran.symm.trans listed) with ⟨found, rfl⟩
    exact ⟨result, rfl, found⟩

theorem resolves_get {exchanges : List Exchange} {endpoints : Endpoints}
    (all : exchanges.map Exchange.listener = Listener.all)
    (resolved : List.Forall₂ Exchange.Resolves exchanges endpoints.toList) :
    ∀ exchange ∈ exchanges, exchange.Resolves (endpoints.get exchange.listener) := by
  have listed : endpoints.toList =
      exchanges.map fun exchange => endpoints.get exchange.listener :=
    calc
      endpoints.toList = Listener.all.map endpoints.get := rfl
      _ = (exchanges.map Exchange.listener).map endpoints.get := by rw [all]
      _ = exchanges.map fun exchange => endpoints.get exchange.listener := List.map_map
  rw [listed, List.forall₂_map_right_iff, List.forall₂_same] at resolved
  exact resolved

/-- Resolving asks about HTTP, gRPC and secure gRPC in this order, about none of them twice, and about
none behind the first whose answer cannot be published. It succeeds exactly if all three were asked
about and every answer can be published, and each listener then has the endpoint that its own answer was
resolved to, in its place and as it is looked up. Otherwise the error is about the last listener that was
asked about, and its answer. A record of the questions and answers changes nothing else. -/
theorem resolve_asks (source : Source State) (before : State) :
    ∃ (exchanges : List Exchange) (result : Except HarnessError Endpoints) (after : State),
      (resolve source).run before = (result, after) ∧
      (resolve source.recorded).run (before, []) = (result, after, exchanges) ∧
      exchanges.map Exchange.listener <+: [.http, .grpc, .secureGrpc] ∧
      (∀ exchange ∈ exchanges.dropLast, ∃ endpoint, exchange.Resolves endpoint) ∧
      ((∃ endpoints, result = .ok endpoints) ↔
        exchanges.map Exchange.listener = [.http, .grpc, .secureGrpc] ∧
          ∀ exchange ∈ exchanges, ∃ endpoint, exchange.Resolves endpoint) ∧
      (∀ endpoints, result = .ok endpoints →
        List.Forall₂ Exchange.Resolves exchanges
          [endpoints.http, endpoints.grpc, endpoints.secureGrpc] ∧
        ∀ exchange ∈ exchanges, exchange.Resolves (endpoints.get exchange.listener)) ∧
      ∀ error, result = .error error → ∃ exchange ∈ exchanges.getLast?, exchange.Blames error := by
  rcases exists_interview source Listener.all before with ⟨exchanges, found, error, after, interview⟩
  rcases interview.run_resolve with ⟨result, resolved, listed⟩
  rcases (interview.recorded []).run_resolve with ⟨result', recorded, listed'⟩
  have same : result' = result := map_toList_injective (listed'.trans listed.symm)
  refine ⟨exchanges, result, after, resolved, same ▸ recorded, interview.inOrder,
    interview.resolves_of_mem_dropLast, ?_⟩
  cases result with
  | ok endpoints =>
      cases error with
      | some error => cases listed
      | none =>
          cases listed
          rcases interview.resolves_of_none with ⟨all, pairs⟩
          have published := resolves_get all pairs
          refine ⟨iff_of_true ⟨endpoints, rfl⟩ ⟨all, ?_⟩, ?_, ?_⟩
          · exact fun exchange member => ⟨_, published exchange member⟩
          · rintro _ ⟨⟩
            exact ⟨pairs, published⟩
          · rintro _ ⟨⟩
  | error fault =>
      cases error with
      | none => cases listed
      | some error =>
          cases listed
          rcases interview.blames_of_some with ⟨exchange, last, blames⟩
          refine ⟨iff_of_false ?_ ?_, ?_, ?_⟩
          · rintro ⟨endpoints, ⟨⟩⟩
          · rintro ⟨-, resolves⟩
            rcases resolves exchange (List.mem_of_mem_getLast? last) with ⟨endpoint, resolves⟩
            exact blames.not_resolves resolves
          · rintro _ ⟨⟩
          · rintro _ ⟨⟩
            exact ⟨exchange, last, blames⟩

/-- A source that counts its questions is asked two if the second listener is not bound. -/
example :
    let source : Source Nat := fun listener asked =>
      (if listener = .grpc then none else some "127.0.0.1:80", asked + 1)
    (resolve source).run 0 = (.error (.addressFormat .grpc "" .notBound), 2) := by
  rfl

end MeshControl.Harness.Endpoints
