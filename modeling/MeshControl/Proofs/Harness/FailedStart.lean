import MeshControl.Proofs.Harness.Lifecycle
import MeshControl.Proofs.Harness.Renumbering

/-!
What a failed start leaves behind: nothing that any caller could notice.

The callers of a harness after a failed start are compared with those of a new harness, step by
step. Both take the same steps, except that closers from before the failure have no counterpart on
the new harness. Such a closer may still be cloned, asked and closed at any moment in between. It
is closed already, so its steps have to be invisible to everybody else, and the comparison skips
them.

Main statement: `failed_start_leaves_nothing`.
-/

namespace MeshControl.Harness.Callers

variable {Configuration Instance : Type}

/-! ## Steps and answers from an offset -/

/-- The same step, had counting begun at the offset. A step with a closer from before has no such
counterpart. -/
def Step.since (offset : Nat) :
    Step Configuration Instance → Option (Step Configuration Instance)
  | .ensure circumstances overrides => some (.ensure circumstances overrides)
  | .current => some .current
  | .cloneCloser closer => (closer.since offset).map .cloneCloser
  | .isClosed closer => (closer.since offset).map .isClosed
  | .release closer => (closer.since offset).map .release
  | .signal closer => (closer.since offset).map .signal
  | .drop => some .drop

/-- The same answer, had there been more attempts before. -/
def Answer.later (offset : Nat) : Answer Instance → Answer Instance
  | .nothing => .nothing
  | .ensured outcome => .ensured (outcome.later offset)
  | .current running => .current (running.map (Running.later offset))
  | .handed closer => .handed (closer.later offset)
  | .truth value => .truth value
  | .closed => .closed

/-! ## The comparison -/

/-- The first harness and its callers are the second ones, counting from an offset. Closers from
before the offset are left out of account. -/
structure Resembles (offset : Nat) (left right : Callers Instance) : Prop where
  left_consistent : left.Consistent
  right_consistent : right.Consistent
  renumbered : Renumbered offset left.harness right.harness
  isGivenUp : left.isGivenUp = right.isGivenUp
  closers : left.closers.filterMap (Closer.since offset) = right.closers
  closing : left.closing.filterMap (Closer.since offset) = right.closing

/-- Taking out a closer before the numbers are shifted, or its counterpart afterwards. -/
private theorem filterMap_erase {offset : Nat} {closer counterpart : Closer}
    (since : closer.since offset = some counterpart) (closers : List Closer) :
    (closers.erase closer).filterMap (Closer.since offset) =
      (closers.filterMap (Closer.since offset)).erase counterpart := by
  induction closers with
  | nil => rfl
  | cons first rest inductionHypothesis =>
      by_cases same : first = closer
      · subst same
        rw [List.erase_cons_head, List.filterMap_cons_some since, List.erase_cons_head]
      · rw [List.erase_cons_tail (by simpa using same)]
        cases shifted : first.since offset with
        | none =>
            rw [List.filterMap_cons_none shifted, List.filterMap_cons_none shifted,
              inductionHypothesis]
        | some other =>
            have different : other ≠ counterpart := by
              rintro rfl
              apply same
              rw [(Closer.since_eq_some_iff.mp shifted).2, (Closer.since_eq_some_iff.mp since).2]
            rw [List.filterMap_cons_some shifted, List.filterMap_cons_some shifted,
              List.erase_cons_tail (by simpa using different), inductionHypothesis]

/-- A closer from before the offset does not count. -/
private theorem filterMap_erase_earlier {offset : Nat} {closer : Closer}
    (earlier : closer.since offset = none) (closers : List Closer) :
    (closers.erase closer).filterMap (Closer.since offset) =
      closers.filterMap (Closer.since offset) := by
  induction closers with
  | nil => rfl
  | cons first rest inductionHypothesis =>
      by_cases same : first = closer
      · subst same
        rw [List.erase_cons_head, List.filterMap_cons_none earlier]
      · rw [List.erase_cons_tail (by simpa using same), List.filterMap_cons,
          List.filterMap_cons, inductionHypothesis]

private theorem mem_filterMap_since {offset : Nat} {closer counterpart : Closer}
    (since : closer.since offset = some counterpart) (closers : List Closer) :
    counterpart ∈ closers.filterMap (Closer.since offset) ↔ closer ∈ closers := by
  rw [List.mem_filterMap]
  constructor
  · rintro ⟨other, member, shifted⟩
    rwa [(Closer.since_eq_some_iff.mp since).2, ← (Closer.since_eq_some_iff.mp shifted).2]
  · intro member
    exact ⟨closer, member, since⟩

namespace Resembles

variable {offset : Nat} {left right : Callers Instance}

private theorem mem_closers (resembles : Resembles offset left right)
    {closer counterpart : Closer} (since : closer.since offset = some counterpart) :
    closer ∈ left.closers ↔ counterpart ∈ right.closers := by
  rw [← resembles.closers]
  exact (mem_filterMap_since since _).symm

private theorem mem_closing (resembles : Resembles offset left right)
    {closer counterpart : Closer} (since : closer.since offset = some counterpart) :
    closer ∈ left.closing ↔ counterpart ∈ right.closing := by
  rw [← resembles.closing]
  exact (mem_filterMap_since since _).symm

/-- What a step has to keep, consistency apart, which every step keeps. -/
private theorem stepped (resembles : Resembles offset left right)
    {next counterpart : Step Configuration Instance}
    (renumbered : Renumbered offset (left.step next).harness (right.step counterpart).harness)
    (isGivenUp : (left.step next).isGivenUp = (right.step counterpart).isGivenUp)
    (closers : (left.step next).closers.filterMap (Closer.since offset) =
      (right.step counterpart).closers)
    (closing : (left.step next).closing.filterMap (Closer.since offset) =
      (right.step counterpart).closing) :
    Resembles offset (left.step next) (right.step counterpart) :=
  ⟨resembles.left_consistent.step next, resembles.right_consistent.step counterpart, renumbered,
    isGivenUp, closers, closing⟩

/-- A step that has a counterpart is answered like its counterpart. -/
private theorem answer (resembles : Resembles offset left right)
    {next counterpart : Step Configuration Instance}
    (since : next.since offset = some counterpart) :
    left.answer next = (right.answer counterpart).later offset := by
  have renumbered := resembles.renumbered
  cases next with
  | ensure circumstances overrides =>
      cases since
      have ensured := renumbered.ensureRunning resembles.left_consistent.harness_consistent
        resembles.right_consistent.harness_consistent circumstances overrides
      simp only [Callers.answer, act, resembles.isGivenUp]
      split
      · rfl
      · simp only [Answer.later, ensured.1]
  | current =>
      cases since
      simp only [Callers.answer, act, resembles.isGivenUp]
      split
      · rfl
      · simp only [Answer.later, current, renumbered.published]
  | cloneCloser closer =>
      rcases Option.map_eq_some_iff.mp since with ⟨shifted, found, rfl⟩
      simp only [Callers.answer, act, resembles.mem_closers found]
      split
      · rw [(Closer.since_eq_some_iff.mp found).2]
        rfl
      · rfl
  | isClosed closer =>
      rcases Option.map_eq_some_iff.mp since with ⟨shifted, found, rfl⟩
      rcases Closer.since_eq_some_iff.mp found with ⟨positive, rfl⟩
      simp only [Callers.answer, act, resembles.mem_closers found]
      split
      · exact congrArg Answer.truth (renumbered.signalled shifted.generation positive)
      · rfl
  | release closer =>
      rcases Option.map_eq_some_iff.mp since with ⟨shifted, found, rfl⟩
      simp only [Callers.answer, act, resembles.mem_closers found]
      split <;> rfl
  | signal closer =>
      rcases Option.map_eq_some_iff.mp since with ⟨shifted, found, rfl⟩
      simp only [Callers.answer, act, resembles.mem_closing found]
      split <;> rfl
  | drop =>
      cases since
      simp only [Callers.answer, act, resembles.isGivenUp]
      split <;> rfl

/-- The counterparts of what a call hands out. -/
private theorem filterMap_handedOut {outcome : Outcome (Running Instance × Closer)}
    (positive : ∀ closer ∈ handedOut outcome, 0 < closer.generation) :
    (handedOut (outcome.later offset)).filterMap (Closer.since offset) = handedOut outcome := by
  cases outcome with
  | done published =>
      have since : (published.2.later offset).since offset = some published.2 :=
        Closer.since_eq_some_iff.mpr ⟨positive published.2 (List.mem_singleton_self _), rfl⟩
      exact List.filterMap_cons_some since
  | failed error => rfl
  | panicked text => rfl

/-- A step that has a counterpart keeps the comparison if its counterpart is taken as well. -/
private theorem step (resembles : Resembles offset left right)
    {next counterpart : Step Configuration Instance}
    (since : next.since offset = some counterpart) :
    Resembles offset (left.step next) (right.step counterpart) := by
  have renumbered := resembles.renumbered
  cases next with
  | ensure circumstances overrides =>
      cases since
      have ensured := renumbered.ensureRunning resembles.left_consistent.harness_consistent
        resembles.right_consistent.harness_consistent circumstances overrides
      have sound := resembles.right_consistent.step (.ensure circumstances overrides)
      by_cases givenUp : right.isGivenUp = true
      · have kept := resembles.isGivenUp.trans givenUp
        simpa [Callers.step, act, givenUp, kept] using resembles
      · have kept := resembles.isGivenUp ▸ givenUp
        apply resembles.stepped <;> simp only [Callers.step, act, if_neg givenUp, if_neg kept]
        · exact ensured.2
        · exact resembles.isGivenUp
        · rw [List.filterMap_append, resembles.closers, ensured.1, filterMap_handedOut]
          intro closer handed
          apply (sound.harness_consistent.accounted_range _ (sound.handed_accounted closer _)).1
          simp [Callers.step, act, givenUp, handed]
        · exact resembles.closing
  | current =>
      cases since
      rw [step_current, step_current]
      exact resembles
  | cloneCloser closer =>
      rcases Option.map_eq_some_iff.mp since with ⟨shifted, found, rfl⟩
      have handed := resembles.mem_closers found
      by_cases member : shifted ∈ right.closers
      · apply resembles.stepped <;>
          simp only [Callers.step, act, if_pos member, if_pos (handed.mpr member)]
        · exact renumbered
        · exact resembles.isGivenUp
        · rw [List.filterMap_append, resembles.closers, List.filterMap_cons_some found]
          rfl
        · exact resembles.closing
      · simpa [Callers.step, act, handed, member] using resembles
  | isClosed closer =>
      rcases Option.map_eq_some_iff.mp since with ⟨shifted, found, rfl⟩
      rw [step_isClosed, step_isClosed]
      exact resembles
  | release closer =>
      rcases Option.map_eq_some_iff.mp since with ⟨shifted, found, rfl⟩
      have handed := resembles.mem_closers found
      by_cases member : shifted ∈ right.closers
      · apply resembles.stepped <;>
          simp only [Callers.step, act, if_pos member, if_pos (handed.mpr member)]
        · rw [(Closer.since_eq_some_iff.mp found).2]
          exact renumbered.release shifted.generation
        · exact resembles.isGivenUp
        · exact resembles.closers
        · rw [List.filterMap_append, resembles.closing, List.filterMap_cons_some found]
          rfl
      · simpa [Callers.step, act, handed, member] using resembles
  | signal closer =>
      rcases Option.map_eq_some_iff.mp since with ⟨shifted, found, rfl⟩
      have pending := resembles.mem_closing found
      by_cases member : shifted ∈ right.closing
      · apply resembles.stepped <;>
          simp only [Callers.step, act, if_pos member, if_pos (pending.mpr member)]
        · rw [(Closer.since_eq_some_iff.mp found).2]
          exact renumbered.signal shifted.generation
        · exact resembles.isGivenUp
        · exact resembles.closers
        · rw [filterMap_erase found, resembles.closing]
      · simpa [Callers.step, act, pending, member] using resembles
  | drop =>
      cases since
      by_cases givenUp : right.isGivenUp = true
      · have kept := resembles.isGivenUp.trans givenUp
        simpa [Callers.step, act, givenUp, kept] using resembles
      · have kept := resembles.isGivenUp ▸ givenUp
        apply resembles.stepped <;> simp only [Callers.step, act, if_neg givenUp, if_neg kept]
        · exact renumbered.withdraw
        · exact resembles.closers
        · exact resembles.closing

/-- A step that has no counterpart is invisible: it was taken with a closer from before, whose
server left the slot long ago. -/
private theorem skip (resembles : Resembles offset left right)
    {next : Step Configuration Instance} (earlier : next.since offset = none) :
    Resembles offset (left.step next) right := by
  have sound := resembles.left_consistent.step next
  have renumbered := resembles.renumbered
  cases next with
  | ensure circumstances overrides => cases earlier
  | current => cases earlier
  | drop => cases earlier
  | cloneCloser closer =>
      have before := Option.map_eq_none_iff.mp earlier
      by_cases member : closer ∈ left.closers
      · refine ⟨sound, resembles.right_consistent, ?_, ?_, ?_, ?_⟩ <;>
          simp only [Callers.step, act, if_pos member]
        · exact renumbered
        · exact resembles.isGivenUp
        · rw [List.filterMap_append, List.filterMap_cons_none before, List.filterMap_nil,
            List.append_nil, resembles.closers]
        · exact resembles.closing
      · simpa [Callers.step, act, member] using resembles
  | isClosed closer =>
      rw [step_isClosed]
      exact resembles
  | release closer =>
      have before := Option.map_eq_none_iff.mp earlier
      have elsewhere := renumbered.release_earlier resembles.right_consistent.harness_consistent
        (Closer.since_eq_none_iff.mp before)
      by_cases member : closer ∈ left.closers
      · refine ⟨sound, resembles.right_consistent, ?_, ?_, ?_, ?_⟩ <;>
          simp only [Callers.step, act, if_pos member, elsewhere]
        · exact renumbered
        · exact resembles.isGivenUp
        · exact resembles.closers
        · rw [List.filterMap_append, List.filterMap_cons_none before, List.filterMap_nil,
            List.append_nil, resembles.closing]
      · simpa [Callers.step, act, member] using resembles
  | signal closer =>
      have before := Option.map_eq_none_iff.mp earlier
      have unchanged :
          (left.step (.signal closer : Step Configuration Instance)).harness = left.harness :=
        resembles.left_consistent.harness_signal closer
      by_cases member : closer ∈ left.closing
      · refine ⟨sound, resembles.right_consistent, unchanged ▸ renumbered, ?_, ?_, ?_⟩ <;>
          simp only [Callers.step, act, if_pos member]
        · exact resembles.isGivenUp
        · exact resembles.closers
        · rw [filterMap_erase_earlier before, resembles.closing]
      · simpa [Callers.step, act, member] using resembles

/-- Whatever is done later, the comparison holds with the counterparts of it. -/
private theorem run (resembles : Resembles offset left right)
    (steps : List (Step Configuration Instance)) :
    Resembles offset (left.run steps) (right.run (steps.filterMap (Step.since offset))) := by
  induction steps generalizing left right with
  | nil => exact resembles
  | cons next rest inductionHypothesis =>
      cases counterpart : next.since offset with
      | none =>
          rw [List.filterMap_cons_none counterpart]
          exact inductionHypothesis (resembles.skip counterpart)
      | some other =>
          rw [List.filterMap_cons_some counterpart]
          exact inductionHypothesis (resembles.step counterpart)

end Resembles

/-! ## After a failure -/

/-- Callers of an empty harness resemble those of a new one, apart from what they hold already. -/
theorem Consistent.resembles_new {callers : Callers Instance} (consistent : callers.Consistent)
    (kept : callers.isGivenUp = false) (empty : callers.harness.published = none) :
    Resembles callers.harness.generation callers (.new callers.harness.settings) where
  left_consistent := consistent
  right_consistent := new_consistent _
  renumbered := consistent.harness_consistent.renumbered_new empty
  isGivenUp := kept
  closers := by
    apply List.filterMap_eq_nil_iff.mpr
    intro closer member
    have accounted := consistent.handed_accounted closer member
    exact Closer.since_eq_none_iff.mpr
      (consistent.harness_consistent.accounted_range _ accounted).2
  closing := by
    apply List.filterMap_eq_nil_iff.mpr
    intro closer member
    have accounted : callers.harness.Accounted closer.generation :=
      .inl (consistent.closing_signalled closer member)
    exact Closer.since_eq_none_iff.mpr
      (consistent.harness_consistent.accounted_range _ accounted).2

/-- A failed start leaves nothing behind.

Take any history of a harness, and then a call that returns no server, be it with an error or with
a panic. From then on nothing is published, and every thread and every server of the past was told
to shut down. Each closer from before shows for ever what it showed before the call. And every
other call, at any later moment, is answered as on a new harness with the same settings on which
only the steps since the failure were taken. -/
theorem failed_start_leaves_nothing (settings : Settings)
    (earlier : List (Step Configuration Instance))
    (circumstances : Circumstances Configuration Instance)
    (overrides : List (Override Configuration)) (outcome : Outcome (Running Instance × Closer))
    (called : ((Callers.new settings).run earlier).answer (.ensure circumstances overrides) =
      .ensured outcome)
    (failed : ∀ published, outcome ≠ .done published) :
    let before := (Callers.new settings).run earlier
    let after := before.step (.ensure circumstances overrides)
    let made := after.harness.generation
    after.answer (.current : Step Configuration Instance) = .current none ∧
    (∀ record ∈ after.harness.records, record.launched = true ∨ record.started.isSome = true →
      after.harness.isSignalled record.generation = true) ∧
    ∀ later : List (Step Configuration Instance),
      (∀ closer ∈ before.closers,
        (after.run later).harness.isClosed closer = before.harness.isClosed closer) ∧
      ∀ next counterpart : Step Configuration Instance, next.since made = some counterpart →
        (after.run later).answer next =
          (((Callers.new settings).run (later.filterMap (Step.since made))).answer
            counterpart).later made := by
  intro before after made
  have beforeConsistent : before.Consistent := run_consistent settings earlier
  have afterConsistent : after.Consistent := beforeConsistent.step _
  rcases ensured called with ⟨result, kept, reached⟩
  have emptied := beforeConsistent.harness_consistent.ensureRunning_undone circumstances overrides
    (by rw [result]; exact failed)
  have empty : after.harness.published = none :=
    (congrArg Harness.published reached).trans emptied.2
  refine ⟨?_, ?_, fun later => ⟨?_, ?_⟩⟩
  · rw [answer_current kept]
    exact congrArg Answer.current empty
  · intro record recorded ran
    have launched : record.launched = true :=
      ran.elim id (afterConsistent.harness_consistent.started_launched record recorded)
    exact (afterConsistent.harness_consistent.launched_accounted record recorded
      launched).isSignalled empty
  · intro closer member
    have closed := (beforeConsistent.handed_accounted closer member).isSignalled emptied.1
    have keeps := (beforeConsistent.keeps_step (.ensure circumstances overrides)).trans
      (afterConsistent.keeps_run later)
    exact (keeps.signalled _ closed).trans closed.symm
  · intro next counterpart since
    have resembles := afterConsistent.resembles_new kept empty
    have sameSettings : after.harness.settings = settings := by
      simp [after, before, Callers.new, Harness.new]
    rw [sameSettings] at resembles
    exact (resembles.run later).answer since

/-- A server that starts, but does not know what it is bound to. -/
def lost : Circumstances Unit Unit where
  managed := {
    testConfiguration := fun _ => .done ()
    build := .done
    start := .done
    address := fun _ _ => some none
    replies := fun _ _ _ => .silent }

/-- The first caller is brought down by an override, and the second gets no address. The server of
the second attempt was started, and is told to shut down. -/
theorem failed_start_leaves_nothing_lost :
    let before := (Callers.new .default).run [.ensure lost [fun _ => .error "override"]]
    let after := before.step (.ensure lost [])
    before.answer (.ensure lost []) =
        .ensured (.failed (.addressFormat .http "" .notBound)) ∧
      after.answer (.current : Step Unit Unit) = .current none ∧
      after.harness.isSignalled 2 = true := by
  intro before after
  have nothing := failed_start_leaves_nothing .default [.ensure lost [fun _ => .error "override"]]
    lost [] (.failed (.addressFormat .http "" .notBound)) rfl (by simp)
  exact ⟨rfl, nothing.1, nothing.2.1 ⟨2, 0, true, some ()⟩ (.tail _ (.head _)) (.inl rfl)⟩

end MeshControl.Harness.Callers
