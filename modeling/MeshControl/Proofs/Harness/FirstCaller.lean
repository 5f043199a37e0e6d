import Mathlib.Data.List.Induction
import MeshControl.Proofs.Harness.Closing
import MeshControl.Proofs.Harness.Overrides

/-!
Whose overrides a server runs with.

A call that finds a server hands it on as it is, and a call that finds none brings one up with its
own overrides. So a server belongs to one call of the past, and everybody who gets it later gets what
that call has made, until somebody closes it. Which call that is cannot be seen from the server. It
is found by going back through the history to the step at which the slot was filled, and nothing but
a call fills the slot. The starts are counted from the history as well, by the calls that get through
construction, and not from what the harness has written down.

Main statement: `first_caller_wins`.
-/

namespace MeshControl.Harness

variable {Configuration Instance : Type}

/-- An attempt is written down once, whatever becomes of it. -/
theorem records_bringUp (harness : Harness Instance)
    (circumstances : Circumstances Configuration Instance)
    (overrides : List (Override Configuration)) :
    (harness.bringUp circumstances overrides).2.records =
      (harness.afterAttempt (attempt harness.settings circumstances overrides)).records := by
  rcases harness.bringUp_cases circumstances overrides with
    ⟨server, endpoints, _, _, ended⟩ | ⟨error, _, _, ended⟩ | ⟨error, _, _, ended⟩ |
      ⟨text, _, _, ended⟩ <;>
    simp [ended]

theorem starts_bringUp (harness : Harness Instance)
    (circumstances : Circumstances Configuration Instance)
    (overrides : List (Override Configuration)) :
    (harness.bringUp circumstances overrides).2.starts.length = harness.starts.length +
      if (constructed harness.settings circumstances overrides).isSome then 1 else 0 := by
  rw [starts, records_bringUp, records_afterAttempt, List.filter_append, List.length_append,
    started_attempt]
  cases constructed harness.settings circumstances overrides <;> rfl

/-- What is in the slot after an attempt was put there by it. -/
theorem bringUp_done {harness : Harness Instance} (empty : harness.published = none)
    {circumstances : Circumstances Configuration Instance}
    {overrides : List (Override Configuration)} {running : Running Instance}
    (published : (harness.bringUp circumstances overrides).2.published = some running) :
    (harness.bringUp circumstances overrides).1 = .done (running, ⟨running.generation⟩) ∧
      (attempt harness.settings circumstances overrides).outcome =
        .done (running.server, running.endpoints) := by
  rcases harness.bringUp_cases circumstances overrides with
    ⟨server, endpoints, outcome, _, ended⟩ | ⟨error, _, _, ended⟩ | ⟨error, _, _, ended⟩ |
      ⟨text, _, _, ended⟩ <;>
    rw [ended] at published <;> simp [empty] at published
  subst published
  exact ⟨by rw [ended], outcome⟩

/-! ## The history of a harness -/

namespace Callers

/-- The steps of a history, each with the callers among whom it was taken. -/
def history (callers : Callers Instance) :
    List (Step Configuration Instance) → List (Callers Instance × Step Configuration Instance)
  | [] => []
  | next :: rest => (callers, next) :: (callers.step next).history rest

/-- The server that a step gets through construction with. A call that finds a server does not even
try. -/
def constructs (callers : Callers Instance) : Step Configuration Instance → Option Instance
  | .ensure circumstances overrides =>
    if callers.isGivenUp || callers.harness.published.isSome then none
    else constructed callers.harness.settings circumstances overrides
  | .current | .cloneCloser _ | .isClosed _ | .release _ | .signal _ | .drop => none

/-- Whether a step is the first half of closing a generation. -/
def Step.closes (generation : Nat) : Step Configuration Instance → Bool
  | .release closer => closer.generation == generation
  | .ensure _ _ | .current | .cloneCloser _ | .isClosed _ | .signal _ | .drop => false

/-- What a step does to the harness: nothing; or it brings a server up, because the slot is empty; or
it empties the slot, as a close of what was in it or for good. -/
theorem Consistent.step_cases {callers : Callers Instance} (consistent : callers.Consistent)
    (next : Step Configuration Instance) :
    ((callers.step next).harness = callers.harness ∧ callers.constructs next = none) ∨
    (∃ circumstances overrides, next = .ensure circumstances overrides ∧
      callers.isGivenUp = false ∧ callers.harness.published = none ∧
      (callers.step next).harness = (callers.harness.bringUp circumstances overrides).2) ∨
    ((callers.step next).harness = callers.harness.withdraw ∧ callers.constructs next = none ∧
      ((∀ running, callers.harness.published = some running →
        next.closes running.generation = true) ∨ (callers.step next).isGivenUp = true)) := by
  cases next with
  | ensure circumstances overrides =>
      cases givenUp : callers.isGivenUp with
      | true =>
          left
          simp [Callers.step, act, constructs, givenUp]
      | false =>
          have called := consistent.harness_consistent.ensureRunning_eq circumstances overrides
          cases found : callers.harness.published with
          | some running =>
              left
              rw [found] at called
              simp [Callers.step, act, constructs, givenUp, found, called]
          | none =>
              right
              left
              rw [found] at called
              refine ⟨circumstances, overrides, rfl, rfl, rfl, ?_⟩
              simp [Callers.step, act, givenUp, called]
  | release closer =>
      by_cases handed : closer ∈ callers.closers
      · rcases callers.harness.held_or_absent closer.generation with ⟨running, held, same⟩ | absent
        · right
          right
          refine ⟨?_, rfl, .inl fun other published => ?_⟩
          · simp [Callers.step, act, handed, release_eq, held, same]
          · rw [held] at published
            cases published
            simp [Step.closes, same]
        · left
          simp [Callers.step, act, handed, release_of_absent absent, constructs]
      · left
        simp [Callers.step, act, handed, constructs]
  | drop =>
      cases givenUp : callers.isGivenUp with
      | true =>
          left
          simp [Callers.step, act, givenUp, constructs]
      | false =>
          right
          right
          simp [Callers.step, act, givenUp, constructs, Harness.drop]
  | signal closer =>
      left
      exact ⟨consistent.harness_signal closer, rfl⟩
  | current =>
      left
      exact ⟨congrArg harness (step_current callers), rfl⟩
  | cloneCloser closer =>
      left
      simp only [Callers.step, act, constructs]
      split <;> simp
  | isClosed closer =>
      left
      exact ⟨congrArg harness (step_isClosed callers closer), rfl⟩

/-! ## Counting starts -/

theorem Consistent.starts_step {callers : Callers Instance} (consistent : callers.Consistent)
    (next : Step Configuration Instance) :
    (callers.step next).harness.starts.length =
      callers.harness.starts.length + if (callers.constructs next).isSome then 1 else 0 := by
  rcases consistent.step_cases next with
    ⟨kept, none⟩ | ⟨circumstances, overrides, rfl, givenUp, empty, broughtUp⟩ | ⟨emptied, none, _⟩
  · rw [kept, none]
    rfl
  · have constructs : callers.constructs (.ensure circumstances overrides) =
        constructed callers.harness.settings circumstances overrides := by
      simp [Callers.constructs, givenUp, empty]
    rw [broughtUp, constructs]
    exact callers.harness.starts_bringUp circumstances overrides
  · rw [emptied, none, starts, records_withdraw]
    rfl

theorem Consistent.starts_run {callers : Callers Instance} (consistent : callers.Consistent)
    (steps : List (Step Configuration Instance)) :
    (callers.run steps).harness.starts.length = callers.harness.starts.length +
      (callers.history steps).countP fun moment => (moment.1.constructs moment.2).isSome := by
  induction steps generalizing callers with
  | nil => rfl
  | cons next rest inductionHypothesis =>
      have later := inductionHypothesis (consistent.step next)
      rw [consistent.starts_step next] at later
      rw [history, List.countP_cons, Nat.add_comm (List.countP _ _), ← Nat.add_assoc]
      exact later

/-! ## Where a server comes from -/

/-- The slot is filled by nothing but a call that found it empty. -/
theorem Consistent.published_step {callers : Callers Instance} (consistent : callers.Consistent)
    {next : Step Configuration Instance} {running : Running Instance}
    (published : (callers.step next).harness.published = some running) :
    callers.harness.published = some running ∨
      ∃ circumstances overrides, next = .ensure circumstances overrides ∧
        callers.harness.published = none ∧
        callers.answer next = .ensured (.done (running, ⟨running.generation⟩)) ∧
        (attempt callers.harness.settings circumstances overrides).outcome =
          .done (running.server, running.endpoints) := by
  rcases consistent.step_cases next with
    ⟨kept, _⟩ | ⟨circumstances, overrides, rfl, givenUp, empty, broughtUp⟩ | ⟨emptied, _, _⟩
  · left
    rwa [kept] at published
  · right
    rw [broughtUp] at published
    rcases bringUp_done empty published with ⟨done, outcome⟩
    refine ⟨circumstances, overrides, rfl, empty, ?_, outcome⟩
    simp [answer, act, givenUp, consistent.harness_consistent.ensureRunning_eq, empty, done]
  · rw [emptied, published_withdraw] at published
    cases published

/-- The call of a history that has filled the slot with a server. -/
structure StartedBy (settings : Settings) (steps : List (Step Configuration Instance))
    (running : Running Instance) (earlier : List (Step Configuration Instance))
    (circumstances : Circumstances Configuration Instance)
    (overrides : List (Override Configuration)) : Prop where
  in_history : ∃ later, steps = earlier ++ .ensure circumstances overrides :: later
  found_none : ((Callers.new settings).run earlier).harness.published = none
  returned : ((Callers.new settings).run earlier).answer (.ensure circumstances overrides) =
    .ensured (.done (running, ⟨running.generation⟩))
  attempted : (attempt settings circumstances overrides).outcome =
    .done (running.server, running.endpoints)

theorem run_append (callers : Callers Instance) (first second : List (Step Configuration Instance)) :
    callers.run (first ++ second) = (callers.run first).run second :=
  List.foldl_append

/-- Whatever is in the slot, some call of the past has put it there. -/
theorem exists_startedBy (settings : Settings) {steps : List (Step Configuration Instance)}
    {running : Running Instance}
    (published : ((Callers.new settings).run steps).harness.published = some running) :
    ∃ earlier circumstances overrides,
      StartedBy settings steps running earlier circumstances overrides := by
  induction steps using List.reverseRecOn with
  | nil => cases published
  | append_singleton steps next inductionHypothesis =>
      rw [run_append] at published
      have consistent := run_consistent settings steps
      rcases consistent.published_step published with
        before | ⟨circumstances, overrides, same, empty, returned, outcome⟩
      · rcases inductionHypothesis before with ⟨earlier, circumstances, overrides, started⟩
        rcases started.in_history with ⟨later, split⟩
        refine ⟨earlier, circumstances, overrides, ⟨later ++ [next], ?_⟩, started.found_none,
          started.returned, started.attempted⟩
        rw [split, List.append_assoc, List.cons_append]
      · subst same
        have sameSettings : ((Callers.new settings).run steps).harness.settings = settings := by
          rw [settings_run]
          rfl
        rw [sameSettings] at outcome
        exact ⟨steps, circumstances, overrides, ⟨[], rfl⟩, empty, returned, outcome⟩

/-! ## How long a server stays -/

/-- A harness that was given up stays so. -/
theorem isGivenUp_step {callers : Callers Instance} (givenUp : callers.isGivenUp = true)
    (next : Step Configuration Instance) : (callers.step next).isGivenUp = true := by
  cases next <;> simp only [step, act] <;> split <;> simp [givenUp]

/-- A server stays in the slot until it is closed, or until there is nobody left to ask for it. -/
theorem Consistent.published_or_givenUp_step {callers : Callers Instance}
    (consistent : callers.Consistent) {running : Running Instance}
    {next : Step Configuration Instance} (held : callers.harness.published = some running)
    (unclosed : next.closes running.generation = false) :
    (callers.step next).harness.published = some running ∨
      (callers.step next).isGivenUp = true := by
  rcases consistent.step_cases next with
    ⟨kept, _⟩ | ⟨_, _, _, _, empty, _⟩ | ⟨_, _, closes | givenUp⟩
  · left
    rw [kept, held]
  · rw [held] at empty
    cases empty
  · rw [closes running held] at unclosed
    cases unclosed
  · exact .inr givenUp

theorem Consistent.published_or_givenUp_run {callers : Callers Instance}
    (consistent : callers.Consistent) {running : Running Instance}
    {steps : List (Step Configuration Instance)}
    (held : callers.harness.published = some running ∨ callers.isGivenUp = true)
    (unclosed : ∀ next ∈ steps, next.closes running.generation = false) :
    (callers.run steps).harness.published = some running ∨
      (callers.run steps).isGivenUp = true := by
  induction steps generalizing callers with
  | nil => exact held
  | cons next rest inductionHypothesis =>
      rcases List.forall_mem_cons.mp unclosed with ⟨here, later⟩
      apply inductionHypothesis (consistent.step next) _ later
      rcases held with published | givenUp
      · exact consistent.published_or_givenUp_step published here
      · exact .inr (isGivenUp_step givenUp next)

/-- A step that closes a generation is the release of its one closer. -/
theorem eq_release_of_closes {next : Step Configuration Instance} {closer : Closer}
    (closes : next.closes closer.generation = true) : next = .release closer := by
  cases next with
  | release used =>
      have same : used.generation = closer.generation := by simpa [Step.closes] using closes
      cases used
      cases closer
      exact congrArg Step.release (congrArg Closer.mk same)
  | ensure | current | cloneCloser | isClosed | signal | drop => cases closes

theorem Consistent.isSignalled_step_release {callers : Callers Instance}
    (consistent : callers.Consistent) {closer : Closer} (handed : closer ∈ callers.closers) :
    (callers.step (.release closer : Step Configuration Instance)).harness.isSignalled
      closer.generation = true := by
  have accounted := consistent.handed_accounted closer handed
  simp only [Callers.step, act, if_pos handed]
  exact isSignalled_release accounted

/-- A generation that somebody has closed is signalled for good. -/
theorem Consistent.isSignalled_run_of_closes {callers : Callers Instance}
    (consistent : callers.Consistent) {closer : Closer} (handed : closer ∈ callers.closers)
    {steps : List (Step Configuration Instance)} {next : Step Configuration Instance}
    (member : next ∈ steps) (closes : next.closes closer.generation = true) :
    (callers.run steps).harness.isSignalled closer.generation = true := by
  rcases List.append_of_mem member with ⟨before, after, rfl⟩
  have reached := consistent.run before
  have stillHanded := mem_closers_run handed before
  rw [run_append]
  apply ((reached.step next).keeps_run after).signalled
  rw [eq_release_of_closes closes]
  exact reached.isSignalled_step_release stillHanded

/-- Two calls share a server if and only if nobody has closed it between them. -/
theorem Consistent.isSame_iff {callers : Callers Instance} (consistent : callers.Consistent)
    {circumstances later : Circumstances Configuration Instance}
    {overrides changes : List (Override Configuration)} {running other : Running Instance}
    {closer used : Closer} {between : List (Step Configuration Instance)}
    (first : callers.answer (.ensure circumstances overrides) =
      .ensured (.done (running, closer)))
    (second : ((callers.step (.ensure circumstances overrides)).run between).answer
      (.ensure later changes) = .ensured (.done (other, used))) :
    (running.isSame other = true ↔ ∀ next ∈ between, next.closes running.generation = false) ∧
      (running.isSame other = true → other = running) := by
  have called := consistent.step (.ensure circumstances overrides)
  have reached := called.run between
  rcases ensured first with ⟨firstDone, _, firstStep⟩
  have returned := consistent.harness_consistent.ensureRunning_done circumstances overrides firstDone
  rcases ensured second with ⟨secondDone, kept, _⟩
  have found := reached.harness_consistent.ensureRunning_done later changes secondDone
  have shared : (∀ next ∈ between, next.closes running.generation = false) → other = running := by
    intro unclosed
    have held : (callers.step (.ensure circumstances overrides)).harness.published =
        some running := by
      rw [firstStep]
      exact returned.1
    rcases called.published_or_givenUp_run (.inl held) unclosed with published | givenUp
    · rw [reached.harness_consistent.ensureRunning_eq, published] at secondDone
      cases secondDone
      rfl
    · rw [isGivenUp_step givenUp] at kept
      cases kept
  have unclosed : running.isSame other = true →
      ∀ next ∈ between, next.closes running.generation = false := by
    intro same next member
    have handed := consistent.closer_of_ensured first
    rw [Running.isSame, beq_iff_eq, ← handed.2] at same
    by_contra closes
    rw [Bool.not_eq_false, ← handed.2] at closes
    have signalled := called.isSignalled_run_of_closes handed.1 member closes
    rw [same, found.2.2] at signalled
    cases signalled
  refine ⟨⟨unclosed, fun kept => ?_⟩, fun same => shared (unclosed same)⟩
  rw [shared kept, Running.isSame, beq_self_eq_true]

/-- The first caller wins, at any moment in the life of a harness.

Take a call that returns a server. Some call up to this one has found no server and brought that one
up. It began each of its overrides once and in order, the test configuration for the addresses of
the harness went through them, and the server runs with the outcome: of several overrides that write
a field, the last decides. A later call returns the same server if and only if no closer of it was
released in between.

A call that finds a server returns that one, and nothing about it depends on its overrides. The
servers that were told to start are as many as the calls that found none and got through
construction. Among the servers that show what they run with are the control planes. -/
theorem first_caller_wins (settings : Settings) (steps : List (Step Configuration Instance)) :
    let callers := (Callers.new settings).run steps
    (∀ (circumstances : Circumstances Configuration Instance)
      (overrides : List (Override Configuration)) (running : Running Instance) (closer : Closer),
      callers.answer (.ensure circumstances overrides) = .ensured (.done (running, closer)) →
      (∃ earlier first changes configuration,
        StartedBy settings (steps ++ [.ensure circumstances overrides]) running earlier first
          changes ∧
        (attempt settings first changes).applied = changes.length ∧
        Configures settings first changes configuration ∧
        first.managed.RunsWith configuration running.server ∧
        (∀ configurationOf, first.managed.Reports configurationOf →
          configurationOf running.server = configuration) ∧
        ∀ (Field : Type) (field : Configuration → Field) (value : Field) (before after : List _)
          (write : Override Configuration), changes = before ++ write :: after →
          (∀ old new, write old = .ok new → field new = value) →
          (∀ change ∈ after, ∀ old new, change old = .ok new → field new = field old) →
            field configuration = value) ∧
      ∀ (between : List (Step Configuration Instance))
        (later : Circumstances Configuration Instance) (changes : List (Override Configuration))
        (other : Running Instance) (used : Closer),
        ((callers.step (.ensure circumstances overrides)).run between).answer
          (.ensure later changes) = .ensured (.done (other, used)) →
        (running.isSame other = true ↔
          ∀ next ∈ between, next.closes running.generation = false) ∧
        (running.isSame other = true → other = running)) ∧
    (∀ running, callers.harness.published = some running →
      ∀ (circumstances : Circumstances Configuration Instance)
        (overrides : List (Override Configuration)),
        callers.answer (.ensure circumstances overrides) =
            .ensured (.done (running, ⟨running.generation⟩)) ∧
          (callers.step (.ensure circumstances overrides)).harness = callers.harness) ∧
    callers.harness.starts.length =
      (((Callers.new settings).history steps).countP
        fun moment => (moment.1.constructs moment.2).isSome) ∧
    ∀ site : TestSite, site.controlPlane.Reports fun server => server.plane.config := by
  intro callers
  have consistent : callers.Consistent := run_consistent settings steps
  refine ⟨?_, ?_, ?_, TestSite.controlPlane_reports⟩
  · intro circumstances overrides running closer returned
    refine ⟨?_, fun between later changes other used again => consistent.isSame_iff returned again⟩
    rcases ensured returned with ⟨done, _, reached⟩
    have published : ((Callers.new settings).run
        (steps ++ [.ensure circumstances overrides])).harness.published = some running := by
      rw [run_append]
      exact (congrArg Harness.published reached).trans
        (consistent.harness_consistent.ensureRunning_done circumstances overrides done).1
    rcases exists_startedBy settings published with ⟨earlier, first, changes, started⟩
    rcases attempt_done started.attempted with ⟨applied, configuration, configures, runs⟩
    refine ⟨earlier, first, changes, configuration, started, applied, configures, runs,
      fun configurationOf reports => reports.eq_of_runsWith runs, ?_⟩
    intro Field field value before after write split writes leaves
    rcases configures with ⟨base, _, overridden⟩
    rw [split] at overridden
    exact overridden_last_write writes leaves overridden
  · intro running published circumstances overrides
    have kept : callers.isGivenUp = false := by
      apply Bool.eq_false_iff.mpr
      intro givenUp
      rw [consistent.givenUp_empty givenUp] at published
      cases published
    have called := consistent.harness_consistent.ensureRunning_eq circumstances overrides
    rw [published] at called
    simp [answer, step, act, kept, called]
  · have counted := (new_consistent settings).starts_run steps
    have none : (Callers.new settings : Callers Instance).harness.starts.length = 0 := rfl
    rwa [none, Nat.zero_add] at counted

/-- A server whose configuration is a text, and which shows that text. -/
def tagged : Circumstances String String where
  managed := {
    testConfiguration := fun _ => .done "default"
    build := .done
    start := .done
    address := fun _ _ => some (some "127.0.0.1:80")
    replies := fun _ _ _ => .answered readyStatus ⟨0⟩ (some ⟨0⟩) }

/-- The first caller is brought down by an override, the second starts a server with two overrides,
and the third gets that one. One server was started, with the last write of the second caller. -/
theorem first_caller_wins_tagged :
    let steps := [.ensure tagged [fun _ => .error "override"],
      .ensure tagged [fun _ => .ok "early", fun _ => .ok "late"]]
    let callers := (Callers.new .default).run steps
    callers.harness.published.map Running.server = some "late" ∧
      (∀ running, callers.harness.published = some running →
        callers.answer (.ensure tagged [fun _ => .ok "third"]) =
          .ensured (.done (running, ⟨running.generation⟩))) ∧
      callers.harness.starts.length = 1 := by
  intro steps callers
  have wins := first_caller_wins .default steps
  refine ⟨by decide +kernel, ?_, wins.2.2.1.trans (by decide +kernel)⟩
  intro running published
  exact (wins.2.1 running published tagged [fun _ => .ok "third"]).1

end Callers

end MeshControl.Harness
