import MeshControl.Proofs.Harness.Lifecycle

/-!
Closing a server, and what it leaves alone.

A closer knows a generation and nothing else, while the slot may be empty, may hold a later server,
or may have gone with the harness. What closing does is therefore described by the generation alone:
the slot loses a server of that generation if it has one, and the signals gain that generation. Both
descriptions are idempotent and do not depend on the order of two closings, and so neither does
closing itself, although its two halves are taken one after the other.

Main statement: `closing_own_instance`.
-/

namespace MeshControl.Harness

variable {Configuration Instance : Type}

/-! ## What closing does to a harness -/

/-- The slot without a server of one generation. -/
def Slot.without (slot : Slot Instance) (generation : Nat) : Slot Instance :=
  { slot with published := slot.published.filter fun running => running.generation != generation }

/-- Taking out two generations does not depend on their order. -/
theorem Slot.without_comm (slot : Slot Instance) (first second : Nat) :
    (slot.without first).without second = (slot.without second).without first := by
  have exchanged : ∀ running : Running Instance,
      (running.generation != first && running.generation != second) =
        (running.generation != second && running.generation != first) := by
    intro running
    exact Bool.and_comm _ _
  simp only [without, Option.filter_filter, exchanged]

theorem published_eq (harness : Harness Instance) :
    harness.published = harness.slot.content.published := by
  simp [published]

/-- A release that finds its own generation in the slot empties the slot. -/
theorem release_of_held {harness : Harness Instance} {running : Running Instance}
    (held : harness.published = some running) :
    harness.release running.generation =
      (harness.putPublished none).signal running.generation := by
  simp [release, withdraw, held]

/-- A release that does not find its generation does nothing. -/
theorem release_of_absent {harness : Harness Instance} {generation : Nat}
    (absent : ∀ running, harness.published = some running → running.generation ≠ generation) :
    harness.release generation = harness := by
  unfold release
  cases found : harness.published with
  | none => rfl
  | some running => exact if_neg (absent running found)

/-- The slot holds a server of a generation, or it does not. -/
theorem held_or_absent (harness : Harness Instance) (generation : Nat) :
    (∃ running, harness.published = some running ∧ running.generation = generation) ∨
      ∀ running, harness.published = some running → running.generation ≠ generation := by
  by_cases held : ∃ running,
      harness.published = some running ∧ running.generation = generation
  · exact .inl held
  · refine .inr ?_
    intro running published same
    exact held ⟨running, published, same⟩

/-- Closing takes its own generation out of the slot. -/
theorem slot_close (harness : Harness Instance) (closer : Closer) :
    (harness.close closer).slot =
      harness.slot.put (harness.slot.content.without closer.generation) := by
  rw [close, slot_signal]
  rcases harness.held_or_absent closer.generation with ⟨running, held, same⟩ | absent
  · have emptied := release_of_held held
    rw [same] at emptied
    rw [published_eq] at held
    have lost : harness.slot.content.published.filter
        (fun running => running.generation != closer.generation) = none := by
      simp [held, Option.filter_some, same]
    rw [emptied, slot_signal, Slot.without, lost, putPublished, Guarded.enter_eq]
  · rw [published_eq] at absent
    have kept : harness.slot.content.published.filter
        (fun running => running.generation != closer.generation) =
          harness.slot.content.published := by
      cases found : harness.slot.content.published with
      | none => rfl
      | some running => simp [Option.filter_some, absent running found]
    rw [release_of_absent (published_eq harness ▸ absent), Slot.without, kept]
    rfl

/-- Closing signals its own generation, whether or not its server was still published. The release
signals no other one, because the server that it withdraws is of that generation. -/
theorem isSignalled_close (harness : Harness Instance) (closer : Closer) (generation : Nat) :
    (harness.close closer).isSignalled generation =
      (decide (generation = closer.generation) || harness.isSignalled generation) := by
  rw [close, isSignalled_signal]
  rcases harness.held_or_absent closer.generation with ⟨running, held, same⟩ | absent
  · have emptied := release_of_held held
    rw [same] at emptied
    rw [emptied, isSignalled_signal, isSignalled_putPublished, ← Bool.or_assoc, Bool.or_self]
  · rw [release_of_absent absent]

/-- Closing what is neither published nor open changes nothing. -/
theorem close_of_closed {harness : Harness Instance} {closer : Closer}
    (absent : ∀ running, harness.published = some running →
      running.generation ≠ closer.generation)
    (closed : harness.isClosed closer = true) : harness.close closer = harness := by
  rw [close, release_of_absent absent]
  exact signal_of_isSignalled closed

/-- After a closing there is nothing left to close. -/
theorem close_close (harness : Harness Instance) (closer : Closer) :
    (harness.close closer).close closer = harness.close closer := by
  apply close_of_closed
  · intro running found
    rw [published_eq, slot_close, Guarded.content_put] at found
    have kept := (Option.filter_eq_some_iff.mp found).2
    simpa using kept
  · rw [isClosed, isSignalled_close, decide_eq_true rfl, Bool.true_or]

/-- Two closings leave the same slot and the same signals in either order. -/
theorem close_comm (harness : Harness Instance) (first second : Closer) :
    ((harness.close first).close second).slot = ((harness.close second).close first).slot ∧
      ∀ generation, ((harness.close first).close second).isSignalled generation =
        ((harness.close second).close first).isSignalled generation := by
  constructor
  · have exchanged := harness.slot.content.without_comm first.generation second.generation
    simp only [slot_close, Guarded.content_put, exchanged]
    rfl
  · intro generation
    simp only [isSignalled_close]
    exact Bool.or_left_comm _ _ _

namespace Callers

/-! ## What closing does among callers -/

/-- Both halves of closing together close the harness, and the second half is answered. -/
theorem run_close {callers : Callers Instance} {closer : Closer}
    (handed : closer ∈ callers.closers) :
    (callers.step (.release closer : Step Configuration Instance)).answer
        (.signal closer : Step Configuration Instance) = .closed ∧
      (callers.run (close closer : List (Step Configuration Instance))).harness =
        callers.harness.close closer ∧
      (callers.run (close closer : List (Step Configuration Instance))).closers =
        callers.closers := by
  have pending : closer ∈ callers.closing ++ [closer] :=
    List.mem_append_right _ (List.mem_singleton_self closer)
  refine ⟨?_, ?_, ?_⟩
  · simp only [step, answer, act, if_pos handed, if_pos pending]
  · simp only [run, close, List.foldl_cons, List.foldl_nil, step, act, if_pos handed,
      if_pos pending]
    rfl
  · simp only [run, close, List.foldl_cons, List.foldl_nil, step, act, if_pos handed,
      if_pos pending]

/-- A closer that was handed out stays valid. -/
theorem mem_closers_step {callers : Callers Instance} {closer : Closer}
    (handed : closer ∈ callers.closers) (next : Step Configuration Instance) :
    closer ∈ (callers.step next).closers := by
  cases next with
  | ensure =>
      simp only [step, act]
      split
      · exact handed
      · exact List.mem_append_left _ handed
  | cloneCloser =>
      simp only [step, act]
      split
      · exact List.mem_append_left _ handed
      · exact handed
  | release | signal | drop =>
      simp only [step, act]
      split <;> exact handed
  | current =>
      rw [step_current]
      exact handed
  | isClosed =>
      rw [step_isClosed]
      exact handed

theorem mem_closers_run {callers : Callers Instance} {closer : Closer}
    (handed : closer ∈ callers.closers) (steps : List (Step Configuration Instance)) :
    closer ∈ (callers.run steps).closers := by
  induction steps generalizing callers with
  | nil => exact handed
  | cons next rest inductionHypothesis => exact inductionHypothesis (mem_closers_step handed next)

/-- The closer that a call returns is handed out by it, and is of the generation of the server that
the call returns. -/
theorem Consistent.closer_of_ensured {callers : Callers Instance} (consistent : callers.Consistent)
    {circumstances : Circumstances Configuration Instance}
    {overrides : List (Override Configuration)} {running : Running Instance} {closer : Closer}
    (called : callers.answer (.ensure circumstances overrides) =
      .ensured (.done (running, closer))) :
    closer ∈ (callers.step (.ensure circumstances overrides)).closers ∧
      closer.generation = running.generation := by
  rcases ensured called with ⟨done, kept, _⟩
  have returned := consistent.harness_consistent.ensureRunning_done circumstances overrides done
  refine ⟨?_, returned.2.1⟩
  cases givenUp : callers.isGivenUp with
  | true => simp [answer, act, givenUp] at called
  | false => simp [Callers.step, act, givenUp, done, handedOut]

/-- Closing, whatever callers have done before and whoever closes.

It cannot fail. A server of the generation of the closer leaves the slot, and otherwise the slot
stays as it is, be it empty, taken by a later server, or given up with the harness. From then on
those closers are closed that were closed before, and those of the same generation. The generation
of a closer is that of the server with which it was handed out, so these are the closers of one
server. Closing again has no effect, and two closings have the same effect in either order. -/
theorem closing_own_instance (settings : Settings) (steps : List (Step Configuration Instance))
    (closer : Closer) (handed : closer ∈ ((Callers.new settings).run steps).closers) :
    let callers := (Callers.new settings).run steps
    let closed := fun (state : Callers Instance) (next : Closer) =>
      state.run (close next : List (Step Configuration Instance))
    (callers.step (.release closer : Step Configuration Instance)).answer
        (.signal closer : Step Configuration Instance) = .closed ∧
    (∀ running, callers.harness.published = some running →
      running.generation = closer.generation →
        (closed callers closer).harness.published = none) ∧
    ((∀ running, callers.harness.published = some running →
      running.generation ≠ closer.generation) →
        (closed callers closer).harness.slot = callers.harness.slot) ∧
    (∀ other, (closed callers closer).harness.isClosed other = true ↔
      callers.harness.isClosed other = true ∨ other.generation = closer.generation) ∧
    (∀ earlier circumstances overrides later running other,
      steps = earlier ++ .ensure circumstances overrides :: later →
      ((Callers.new settings).run earlier).answer (.ensure circumstances overrides) =
        .ensured (.done (running, other)) →
      other ∈ callers.closers ∧ other.generation = running.generation) ∧
    (∀ again ∈ callers.closers, again.generation = closer.generation →
      (closed (closed callers closer) again).harness = (closed callers closer).harness) ∧
    ∀ other ∈ callers.closers,
      (closed (closed callers closer) other).harness.slot =
        (closed (closed callers other) closer).harness.slot ∧
      ∀ third, (closed (closed callers closer) other).harness.isClosed third =
        (closed (closed callers other) closer).harness.isClosed third := by
  intro callers closed
  have ran : ∀ first ∈ callers.closers,
      (closed callers first).harness = callers.harness.close first := by
    intro first member
    exact (run_close member).2.1
  have ranTwice : ∀ first ∈ callers.closers, ∀ second ∈ callers.closers,
      (closed (closed callers first) second).harness =
        (callers.harness.close first).close second := by
    intro first firstMember second secondMember
    rw [← ran first firstMember]
    exact (run_close (mem_closers_run secondMember _)).2.1
  refine ⟨(run_close handed).1, ?_, ?_, ?_, ?_, ?_, ?_⟩
  · intro running published same
    rw [ran closer handed, published_eq, slot_close, Guarded.content_put]
    rw [published_eq] at published
    simp [Slot.without, published, Option.filter_some, same]
  · intro absent
    rw [ran closer handed, Harness.close, release_of_absent absent, slot_signal]
  · intro other
    rw [ran closer handed, isClosed, isSignalled_close, Bool.or_eq_true, decide_eq_true_eq]
    exact or_comm
  · intro earlier circumstances overrides later running other split answered
    have before := run_consistent settings earlier
    rcases before.closer_of_ensured answered with ⟨member, same⟩
    have reached : callers = (((Callers.new settings).run earlier).step
        (.ensure circumstances overrides)).run later := by
      simp only [callers, split, run, List.foldl_append, List.foldl_cons]
    rw [reached]
    exact ⟨mem_closers_run member later, same⟩
  · intro again member same
    have equal : again = closer := by
      cases again
      cases closer
      exact congrArg Closer.mk same
    rw [ranTwice closer handed again member, ran closer handed, equal]
    exact close_close callers.harness closer
  · intro other member
    have exchanged := close_comm callers.harness closer other
    rw [ranTwice closer handed other member, ranTwice other member closer handed]
    exact ⟨exchanged.1, fun third => exchanged.2 third.generation⟩

/-- A server that is ready at once. -/
def prompt : Circumstances Unit Unit where
  managed := {
    testConfiguration := fun _ => .done ()
    build := .done
    start := .done
    address := fun _ _ => some (some "127.0.0.1:80")
    replies := fun _ _ _ => .answered readyStatus ⟨0⟩ (some ⟨0⟩) }

/-- The closer of the first server is used once more when a second server is published. The second
server stays, and its closer stays open. -/
theorem closing_own_instance_stale :
    let steps := .ensure prompt [] :: (close ⟨1⟩ ++ [.ensure prompt []])
    let callers := (Callers.new .default).run steps
    callers.closers = [⟨1⟩, ⟨2⟩] ∧
      (callers.run (close ⟨1⟩ : List (Step Unit Unit))).harness.slot = callers.harness.slot ∧
      (callers.run (close ⟨1⟩ : List (Step Unit Unit))).harness.isClosed ⟨2⟩ = false := by
  intro steps callers
  have handedOut : callers.closers = [⟨1⟩, ⟨2⟩] := by decide +kernel
  have latest : callers.harness.published.map Running.generation = some 2 := by decide +kernel
  have stillOpen : callers.harness.isClosed ⟨2⟩ = false := by decide +kernel
  have closed := closing_own_instance .default steps ⟨1⟩ (handedOut ▸ List.mem_cons_self)
  rcases closed with ⟨_, _, kept, statuses, _⟩
  refine ⟨handedOut, kept ?_, ?_⟩
  · intro running published stale
    rw [published, Option.map_some, stale] at latest
    cases latest
  · apply Bool.eq_false_iff.mpr
    intro closed
    rcases (statuses ⟨2⟩).mp closed with before | same
    · rw [stillOpen] at before
      cases before
    · cases same

end Callers

end MeshControl.Harness
