import MeshControl.Proofs.Server.FirstFault

/-!
The starts of a server over its whole life.

What a single start does was settled before. Over a life, the bound addresses are all that has to
be followed: a start that succeeds sets them, and from then on they keep every later start from
getting past its first stage. They outlast the listeners themselves, so it makes no difference
whether the server was stopped meanwhile.

Main statement: `run_starts`.
-/

namespace MeshControl.ServerLife

/-! ## One start -/

theorem step_start (life : ServerLife) (surroundings : Surroundings) :
    life.step (.start surroundings) =
      match life.server.firstFault surroundings life.holdings.addresses with
      | some _ => life
      | none =>
        ⟨life.server.started surroundings, .warming,
          life.server.acquired surroundings life.holdings⟩ := by
  simp only [step, start, life.server.startWithin_run surroundings life.holdings]
  cases life.server.firstFault surroundings life.holdings.addresses <;> rfl

theorem answer_start (life : ServerLife) (surroundings : Surroundings) :
    life.answer (.start surroundings) =
      match life.server.firstFault surroundings life.holdings.addresses with
      | some error => .failed error
      | none => .started := by
  simp only [answer, life.server.startWithin_run surroundings life.holdings]
  cases life.server.firstFault surroundings life.holdings.addresses <;> rfl

theorem firstFault_of_bound {server : Server} (bound : server.bound.isSome = true)
    (surroundings : Surroundings) (held : List Net.SocketAddress) :
    server.firstFault surroundings held = some .alreadyStarted := by
  simp [Server.firstFault, StartStage.all, Server.faultAt, bound]

/-- A server that was started says so. -/
theorem answer_start_of_bound {life : ServerLife} (bound : life.server.bound.isSome = true)
    (surroundings : Surroundings) :
    life.answer (.start surroundings) = .failed .alreadyStarted := by
  rw [answer_start, firstFault_of_bound bound]

/-! ## The bound addresses -/

/-- Once there are bound addresses, no step changes them. -/
theorem bound_step {life : ServerLife} (bound : life.server.bound.isSome = true) (next : Step) :
    (life.step next).server.bound = life.server.bound := by
  cases next with
  | start surroundings => rw [step_start, firstFault_of_bound bound]
  | waitReady files =>
      simp only [step, warmUp]
      split <;> rfl
  | waitNotReady =>
      simp only [step, windDown]
      split <;> rfl
  | cancel =>
      simp only [step, cancel]
      split <;> rfl
  | released listener =>
      simp only [step, awaitRelease]
      split <;> rfl
  | setReady | request | check => rfl

theorem bound_run {life : ServerLife} (bound : life.server.bound.isSome = true)
    (steps : List Step) : (life.run steps).server.bound = life.server.bound := by
  induction steps generalizing life with
  | nil => rfl
  | cons next rest inductionHypothesis =>
      have kept := bound_step bound next
      exact (inductionHypothesis (kept ▸ bound)).trans kept

/-- Only a start is answered with a started server. -/
theorem eq_start_of_started {life : ServerLife} {next : Step}
    (started : life.answer next = .started) : ∃ surroundings, next = .start surroundings := by
  cases next with
  | start surroundings => exact ⟨surroundings, rfl⟩
  | request reachable request =>
      simp only [answer, answerClient] at started
      split at started <;> try split at started
      all_goals cases started
  | check reachable service =>
      simp only [answer, answerClient] at started
      split at started <;> try split at started
      all_goals cases started
  | waitReady | waitNotReady | setReady | cancel | released => cases started

/-- A start that succeeds leaves bound addresses behind. -/
theorem bound_of_started {life : ServerLife} {next : Step} (started : life.answer next = .started) :
    (life.step next).server.bound.isSome = true := by
  rcases eq_start_of_started started with ⟨surroundings, rfl⟩
  rw [answer_start] at started
  rw [step_start]
  cases fault : life.server.firstFault surroundings life.holdings.addresses with
  | some error =>
      rw [fault] at started
      cases started
  | none => rfl

/-- A server that was not started holds nothing. -/
def Idle (life : ServerLife) : Prop :=
  life.server.bound = none → life.holdings = .empty

theorem Idle.step {life : ServerLife} (idle : life.Idle) (next : Step) : (life.step next).Idle := by
  cases next with
  | start surroundings =>
      rw [step_start]
      cases life.server.firstFault surroundings life.holdings.addresses with
      | some error => exact idle
      | none =>
          intro unbound
          cases unbound
  | waitReady files =>
      simp only [ServerLife.step, warmUp]
      split <;> exact idle
  | waitNotReady =>
      simp only [ServerLife.step, windDown]
      split
      · exact fun _ => rfl
      · exact fun _ => rfl
      · exact idle
  | cancel =>
      simp only [ServerLife.step, cancel]
      split <;> exact idle
  | released listener =>
      simp only [ServerLife.step, awaitRelease]
      split
      · intro unbound
        simp only [idle unbound]
        rfl
      · exact idle
  | setReady | request | check => exact idle

theorem Idle.run {life : ServerLife} (idle : life.Idle) (steps : List Step) :
    (life.run steps).Idle := by
  induction steps generalizing life with
  | nil => exact idle
  | cons next rest inductionHypothesis => exact inductionHypothesis (idle.step next)

/-! ## Whole lives -/

/-- What some steps are answered with, each in the state that it meets. -/
def answers (life : ServerLife) : List Step → List Answer
  | [] => []
  | next :: rest => life.answer next :: (life.step next).answers rest

/-- Nobody starts a server that was started. -/
theorem started_not_mem_answers {life : ServerLife} (bound : life.server.bound.isSome = true)
    (steps : List Step) : Answer.started ∉ life.answers steps := by
  induction steps generalizing life with
  | nil => exact List.not_mem_nil
  | cons next rest inductionHypothesis =>
      have kept : (life.step next).server.bound.isSome = true := bound_step bound next ▸ bound
      rw [answers, List.mem_cons, not_or]
      refine ⟨?_, inductionHypothesis kept⟩
      intro started
      rcases eq_start_of_started started.symm with ⟨surroundings, rfl⟩
      rw [answer_start_of_bound bound] at started
      cases started

theorem count_started_le_one (life : ServerLife) (steps : List Step) :
    (life.answers steps).count .started ≤ 1 := by
  induction steps generalizing life with
  | nil => exact Nat.zero_le 1
  | cons next rest inductionHypothesis =>
      by_cases started : life.answer next = .started
      · have never := started_not_mem_answers (bound_of_started started) rest
        have once : (life.answers (next :: rest)).count .started = 0 + 1 := by
          rw [answers, started, List.count_cons_self, List.count_eq_zero.mpr never]
        exact Nat.le_of_eq once
      · rw [answers, List.count_cons_of_ne started]
        exact inductionHypothesis (life.step next)

/-- The starts of a server, whatever is done with it and whatever changes around it.

A start succeeds if none of its stages finds a fault, and otherwise reports the fault of the first
one that does. Then nothing at all has changed, and a server that was never started holds nothing.
At most one start succeeds. From then on the bound addresses stay what they are, and every further
start is refused because there was one. -/
theorem run_starts (server : Server) (steps : List Step) :
    let life := (ofServer server).run steps
    (∀ surroundings, life.answer (.start surroundings) = .started ↔
      life.server.firstFault surroundings life.holdings.addresses = none) ∧
    (∀ surroundings error, life.answer (.start surroundings) = .failed error ↔
      life.server.firstFault surroundings life.holdings.addresses = some error) ∧
    (∀ surroundings error, life.answer (.start surroundings) = .failed error →
      life.step (.start surroundings) = life) ∧
    (life.server.bound = none → life.holdings = .empty) ∧
    ((ofServer server).answers steps).count .started ≤ 1 ∧
    ∀ earlier surroundings later, steps = earlier ++ .start surroundings :: later →
      ((ofServer server).run earlier).answer (.start surroundings) = .started →
      life.server.bound.isSome = true ∧
        life.server.bound =
          (((ofServer server).run earlier).step (.start surroundings)).server.bound ∧
        ∀ again, life.answer (.start again) = .failed .alreadyStarted := by
  intro life
  have idle : life.Idle := Idle.run (fun _ => rfl) steps
  refine ⟨?_, ?_, ?_, idle, count_started_le_one _ steps, ?_⟩
  · intro surroundings
    rw [answer_start]
    cases life.server.firstFault surroundings life.holdings.addresses <;> simp
  · intro surroundings error
    rw [answer_start]
    cases life.server.firstFault surroundings life.holdings.addresses <;> simp
  · intro surroundings error failed
    rw [answer_start] at failed
    rw [step_start]
    cases fault : life.server.firstFault surroundings life.holdings.addresses with
    | some _ => rfl
    | none =>
        rw [fault] at failed
        cases failed
  · intro earlier surroundings later split started
    have bound := bound_of_started started
    have reached : life =
        (((ofServer server).run earlier).step (.start surroundings)).run later := by
      simp only [life, split, run, List.foldl_append, List.foldl_cons]
    have kept := bound_run bound later
    rw [← reached] at kept
    exact ⟨kept ▸ bound, kept, fun again => answer_start_of_bound (kept ▸ bound) again⟩

end MeshControl.ServerLife
