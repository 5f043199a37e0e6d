import Mathlib.Data.List.Nodup
import MeshControl.Harness.Shared

/-!
Accounting for the attempts of a harness.

Three things have to agree at every moment: the slot, the number of attempts, and the signals of
all attempts so far. The invariant ties them together by accounting for each attempt that launched
a thread: either it was told to shut down, or its server is the one in the slot. That is why a
step may empty the slot only together with a signal.

The statements here are about one operation on one harness. What callers do with it, and in which
order, is left to the modules above.
-/

namespace MeshControl.Harness

variable {Configuration Instance : Type}

/-! ## Operations on the slot -/

@[simp]
theorem published_withdraw (harness : Harness Instance) : harness.withdraw.published = none := by
  unfold withdraw
  split
  · simp
  · assumption

@[simp]
theorem generation_withdraw (harness : Harness Instance) :
    harness.withdraw.generation = harness.generation := by
  unfold withdraw
  split <;> simp

@[simp]
theorem records_withdraw (harness : Harness Instance) :
    harness.withdraw.records = harness.records := by
  unfold withdraw
  split <;> simp

@[simp]
theorem settings_withdraw (harness : Harness Instance) :
    harness.withdraw.settings = harness.settings := by
  unfold withdraw
  split <;> simp

/-- An empty slot has nothing to withdraw. -/
theorem withdraw_of_empty {harness : Harness Instance} (empty : harness.published = none) :
    harness.withdraw = harness := by
  simp [withdraw, empty]

/-- Releasing either withdraws the published server or does nothing. -/
theorem release_eq (harness : Harness Instance) (generation : Nat) :
    harness.release generation =
      if harness.published.any fun running => running.generation == generation then
        harness.withdraw
      else harness := by
  unfold release
  cases found : harness.published with
  | none => simp
  | some running => by_cases same : running.generation = generation <;> simp [same]

@[simp]
theorem settings_release (harness : Harness Instance) (generation : Nat) :
    (harness.release generation).settings = harness.settings := by
  rw [release_eq]
  split <;> simp

theorem signal_of_isSignalled {harness : Harness Instance} {generation : Nat}
    (already : harness.isSignalled generation = true) : harness.signal generation = harness := by
  simp [signal, already]

/-! ## Accounting for attempts -/

/-- An attempt is accounted for if it was told to shut down, or if its server is the published
one. -/
def Accounted (harness : Harness Instance) (generation : Nat) : Prop :=
  harness.isSignalled generation = true ∨
    ∃ running, harness.published = some running ∧ running.generation = generation

/-- What every later state keeps of an earlier one: signals stay, and nobody drops out of the
account. -/
structure Keeps (earlier later : Harness Instance) : Prop where
  signalled : ∀ generation,
    earlier.isSignalled generation = true → later.isSignalled generation = true
  accounted : ∀ generation, earlier.Accounted generation → later.Accounted generation

theorem Keeps.refl (harness : Harness Instance) : Keeps harness harness :=
  ⟨fun _ signalled => signalled, fun _ accounted => accounted⟩

theorem Keeps.trans {first second third : Harness Instance} (before : Keeps first second)
    (after : Keeps second third) : Keeps first third :=
  ⟨fun generation signalled => after.signalled generation (before.signalled generation signalled),
    fun generation accounted => after.accounted generation (before.accounted generation accounted)⟩

/-- Whoever is in the account of a harness is told to shut down when the slot is emptied. -/
theorem isSignalled_withdraw (harness : Harness Instance) (generation : Nat) :
    harness.withdraw.isSignalled generation = true ↔ harness.Accounted generation := by
  unfold withdraw Accounted
  cases found : harness.published with
  | none => simp
  | some running =>
      simp only [isSignalled_signal, isSignalled_putPublished, Bool.or_eq_true, decide_eq_true_eq,
        Option.some.injEq, exists_eq_left']
      exact or_comm.trans (or_congr_right eq_comm)

/-- Emptying the slot does not change who is accounted for, but only why. -/
theorem accounted_withdraw (harness : Harness Instance) (generation : Nat) :
    harness.withdraw.Accounted generation ↔ harness.Accounted generation := by
  rw [← harness.isSignalled_withdraw generation]
  simp [Accounted]

theorem keeps_withdraw (harness : Harness Instance) : Keeps harness harness.withdraw where
  signalled generation signalled := (harness.isSignalled_withdraw generation).mpr (.inl signalled)
  accounted generation accounted := .inl ((harness.isSignalled_withdraw generation).mpr accounted)

theorem keeps_release (harness : Harness Instance) (generation : Nat) :
    Keeps harness (harness.release generation) := by
  rw [release_eq]
  split
  · exact keeps_withdraw harness
  · exact Keeps.refl harness

/-- After a release the attempt is signalled if it was accounted for at all. -/
theorem isSignalled_release {harness : Harness Instance} {generation : Nat}
    (accounted : harness.Accounted generation) :
    (harness.release generation).isSignalled generation = true := by
  rcases accounted with signalled | ⟨running, published, same⟩
  · exact (harness.keeps_release generation).signalled generation signalled
  · rw [release_eq, published]
    simp only [Option.any_some, same, beq_self_eq_true, if_true]
    exact (harness.isSignalled_withdraw generation).mpr (.inr ⟨running, published, same⟩)

/-- With an empty slot there is one way left to be accounted for. -/
theorem Accounted.isSignalled {harness : Harness Instance} {generation : Nat}
    (accounted : harness.Accounted generation) (empty : harness.published = none) :
    harness.isSignalled generation = true := by
  rcases accounted with already | ⟨running, published, _⟩
  · exact already
  · rw [empty] at published
    cases published

/-- With an empty slot, whatever keeps the signals keeps the account. -/
theorem Keeps.of_empty {earlier later : Harness Instance} (empty : earlier.published = none)
    (signalled : ∀ generation,
      earlier.isSignalled generation = true → later.isSignalled generation = true) :
    Keeps earlier later where
  signalled := signalled
  accounted generation accounted := .inl (signalled generation (accounted.isSignalled empty))

/-! ## Consistency of a harness -/

/-- What holds of a harness between any two steps. -/
structure Consistent (harness : Harness Instance) : Prop where
  /-- The published server comes from the latest attempt. -/
  published_latest : ∀ running,
    harness.published = some running → running.generation = harness.generation
  /-- The published server was not told to shut down. -/
  published_open : ∀ running,
    harness.published = some running → harness.isSignalled running.generation = false
  /-- Attempts are numbered from one, and none is accounted for before it is made. -/
  accounted_range : ∀ generation,
    harness.Accounted generation → 0 < generation ∧ generation ≤ harness.generation
  /-- The attempts are recorded one by one. -/
  records_numbered :
    harness.records.map LaunchRecord.generation = List.range' 1 harness.generation
  /-- Only a thread can tell a server to start. -/
  started_launched : ∀ record ∈ harness.records,
    record.started.isSome = true → record.launched = true
  /-- Every thread is accounted for. -/
  launched_accounted : ∀ record ∈ harness.records,
    record.launched = true → harness.Accounted record.generation

theorem new_consistent (settings : Settings) :
    (Harness.new settings : Harness Instance).Consistent where
  published_latest _ published := by cases published
  published_open _ published := by cases published
  accounted_range generation accounted := by
    rcases accounted with signalled | ⟨running, published, _⟩
    · cases signalled
    · cases published
  records_numbered := rfl
  started_launched _ member := by cases member
  launched_accounted _ member := by cases member

namespace Consistent

variable {harness : Harness Instance}

/-- Nobody was told to shut down behind the back of the harness, so what is published can be
used. -/
theorem reusable_eq (consistent : harness.Consistent) : harness.reusable = harness.published := by
  unfold reusable
  cases found : harness.published with
  | none => rfl
  | some running => simp [consistent.published_open running found]

theorem withdraw (consistent : harness.Consistent) : harness.withdraw.Consistent where
  published_latest running published := by simp at published
  published_open running published := by simp at published
  accounted_range generation accounted := by
    rw [generation_withdraw]
    exact consistent.accounted_range generation
      ((harness.accounted_withdraw generation).mp accounted)
  records_numbered := by simpa using consistent.records_numbered
  started_launched := by simpa using consistent.started_launched
  launched_accounted record member launched :=
    (harness.keeps_withdraw).accounted _
      (consistent.launched_accounted record (by simpa using member) launched)

theorem release (consistent : harness.Consistent) (generation : Nat) :
    (harness.release generation).Consistent := by
  rw [release_eq]
  split
  · exact consistent.withdraw
  · exact consistent

/-- The lock has no part in what is consistent. -/
theorem poison (consistent : harness.Consistent) : harness.poison.Consistent where
  published_latest := by simpa using consistent.published_latest
  published_open := by simpa using consistent.published_open
  accounted_range := by simpa [Accounted] using consistent.accounted_range
  records_numbered := by simpa using consistent.records_numbered
  started_launched := consistent.started_launched
  launched_accounted := by simpa [Accounted] using consistent.launched_accounted

end Consistent

/-! ## Bringing up -/

/-- The four ends of an attempt: a server is published, a thread is told to shut down, there was no
thread yet, or the caller is brought down, and then there was no thread either. -/
theorem bringUp_cases (harness : Harness Instance)
    (circumstances : Circumstances Configuration Instance)
    (overrides : List (Override Configuration)) :
    let result := attempt harness.settings circumstances overrides
    let next := harness.afterAttempt result
    (∃ server endpoints, result.outcome = .done (server, endpoints) ∧ result.launched = true ∧
      harness.bringUp circumstances overrides =
        (.done (⟨harness.generation + 1, server, endpoints⟩, ⟨harness.generation + 1⟩),
          next.putPublished (some ⟨harness.generation + 1, server, endpoints⟩))) ∨
    (∃ error, result.outcome = .failed error ∧ result.launched = true ∧
      harness.bringUp circumstances overrides =
        (.failed error, next.signal (harness.generation + 1))) ∨
    (∃ error, result.outcome = .failed error ∧ result.launched = false ∧
      harness.bringUp circumstances overrides = (.failed error, next)) ∨
    (∃ text, result.outcome = .panicked text ∧ result.launched = false ∧
      harness.bringUp circumstances overrides = (.panicked text, next.poison)) := by
  intro result next
  have orderly : result.Orderly := attempt_orderly harness.settings circumstances overrides
  simp only [bringUp, generation_afterAttempt]
  cases ending : result.outcome with
  | done published =>
      exact .inl ⟨published.1, published.2, rfl, orderly.launched_of_done _ ending, rfl⟩
  | failed error =>
      cases launched : result.launched with
      | true => exact .inr (.inl ⟨error, rfl, rfl, rfl⟩)
      | false => exact .inr (.inr (.inl ⟨error, rfl, rfl, rfl⟩))
  | panicked text =>
      exact .inr (.inr (.inr ⟨text, rfl, orderly.not_launched_of_panicked _ ending, rfl⟩))

@[simp]
theorem settings_bringUp (harness : Harness Instance)
    (circumstances : Circumstances Configuration Instance)
    (overrides : List (Override Configuration)) :
    (harness.bringUp circumstances overrides).2.settings = harness.settings := by
  rcases harness.bringUp_cases circumstances overrides with
    ⟨server, endpoints, _, _, ended⟩ | ⟨error, _, _, ended⟩ | ⟨error, _, _, ended⟩ |
      ⟨text, _, _, ended⟩ <;>
    simp [ended]

@[simp]
theorem settings_ensureRunning (harness : Harness Instance)
    (circumstances : Circumstances Configuration Instance)
    (overrides : List (Override Configuration)) :
    (harness.ensureRunning circumstances overrides).2.settings = harness.settings := by
  unfold ensureRunning
  split <;> simp

namespace Consistent

variable {harness : Harness Instance}

/-- The number of the next attempt is not signalled yet. -/
theorem next_open (consistent : harness.Consistent) :
    harness.isSignalled (harness.generation + 1) = false := by
  cases signalled : harness.isSignalled (harness.generation + 1) with
  | false => rfl
  | true =>
      have past := consistent.accounted_range _ (.inl signalled)
      omega

private theorem afterAttempt_numbered (consistent : harness.Consistent)
    (result : Attempt Instance) :
    (harness.afterAttempt result).records.map LaunchRecord.generation =
      List.range' 1 (harness.generation + 1) := by
  rw [records_afterAttempt, List.map_append, consistent.records_numbered, List.range'_1_concat,
    Nat.add_comm 1]
  rfl

/-- Counting an attempt keeps the account, as long as the thread of the attempt, if it got one, is
taken care of. -/
private theorem afterAttempt_accounted (consistent : harness.Consistent)
    (result : Attempt Instance) {later : Harness Instance}
    (records : later.records = (harness.afterAttempt result).records)
    (keeps : Keeps harness later)
    (launched : result.launched = true → later.Accounted (harness.generation + 1)) :
    ∀ record ∈ later.records, record.launched = true → later.Accounted record.generation := by
  intro record member threaded
  rw [records, records_afterAttempt, List.mem_append, List.mem_singleton] at member
  rcases member with earlier | latest
  · exact keeps.accounted _ (consistent.launched_accounted record earlier threaded)
  · subst latest
    exact launched threaded

private theorem afterAttempt_started (consistent : harness.Consistent)
    {result : Attempt Instance} (orderly : result.Orderly) :
    ∀ record ∈ (harness.afterAttempt result).records,
      record.started.isSome = true → record.launched = true := by
  intro record member started
  rw [records_afterAttempt, List.mem_append, List.mem_singleton] at member
  rcases member with earlier | latest
  · exact consistent.started_launched record earlier started
  · subst latest
    exact orderly.launched_of_started started

/-- If nothing but the latest attempt joined the account, the account stays in range. -/
private theorem afterAttempt_range (consistent : harness.Consistent) {later : Harness Instance}
    (counted : later.generation = harness.generation + 1)
    (joined : ∀ generation, later.Accounted generation →
      harness.Accounted generation ∨ generation = harness.generation + 1) :
    ∀ generation, later.Accounted generation → 0 < generation ∧ generation ≤ later.generation := by
  intro generation accounted
  rw [counted]
  rcases joined generation accounted with earlier | latest
  · have past := consistent.accounted_range generation earlier
    omega
  · omega

/-- An attempt without a thread adds nothing but a number to an empty harness. -/
private theorem afterAttempt (consistent : harness.Consistent)
    (empty : harness.published = none) {result : Attempt Instance} (orderly : result.Orderly)
    (unlaunched : result.launched = false) : (harness.afterAttempt result).Consistent where
  published_latest running published := by simp [empty] at published
  published_open running published := by simp [empty] at published
  accounted_range := by
    apply consistent.afterAttempt_range (generation_afterAttempt _ _)
    intro generation accounted
    exact .inl (by simpa [Accounted] using accounted)
  records_numbered := by
    rw [generation_afterAttempt]
    exact consistent.afterAttempt_numbered result
  started_launched := consistent.afterAttempt_started orderly
  launched_accounted := by
    apply consistent.afterAttempt_accounted result rfl
    · exact Keeps.of_empty empty fun _ signalled => signalled
    · intro launched
      rw [unlaunched] at launched
      cases launched

/-- A failed attempt that had a thread tells it to shut down. -/
private theorem afterAttempt_signal (consistent : harness.Consistent)
    (empty : harness.published = none) {result : Attempt Instance} (orderly : result.Orderly) :
    ((harness.afterAttempt result).signal (harness.generation + 1)).Consistent where
  published_latest running published := by simp [empty] at published
  published_open running published := by simp [empty] at published
  accounted_range := by
    apply consistent.afterAttempt_range (by simp)
    rintro generation (signalled | ⟨running, published, _⟩)
    · rw [isSignalled_signal, isSignalled_afterAttempt, Bool.or_eq_true, decide_eq_true_eq]
        at signalled
      exact signalled.symm.imp_left .inl
    · simp [empty] at published
  records_numbered := by
    rw [records_signal, generation_signal, generation_afterAttempt]
    exact consistent.afterAttempt_numbered result
  started_launched := by
    rw [records_signal]
    exact consistent.afterAttempt_started orderly
  launched_accounted := by
    apply consistent.afterAttempt_accounted result (records_signal _ _)
    · refine Keeps.of_empty empty fun generation signalled => ?_
      rw [isSignalled_signal, isSignalled_afterAttempt, signalled, Bool.or_true]
    · intro _
      exact .inl (by simp)

/-- A successful attempt publishes its server, which nobody had a chance to signal. -/
private theorem afterAttempt_publish (consistent : harness.Consistent)
    (empty : harness.published = none) {result : Attempt Instance} (orderly : result.Orderly)
    (running : Running Instance) (latest : running.generation = harness.generation + 1) :
    ((harness.afterAttempt result).putPublished (some running)).Consistent where
  published_latest found published := by
    rw [published_putPublished, Option.some.injEq] at published
    rw [← published, latest, generation_putPublished, generation_afterAttempt]
  published_open found published := by
    rw [published_putPublished, Option.some.injEq] at published
    rw [← published, latest, isSignalled_putPublished, isSignalled_afterAttempt]
    exact consistent.next_open
  accounted_range := by
    apply consistent.afterAttempt_range (by simp)
    rintro generation (signalled | ⟨found, published, same⟩)
    · exact .inl (.inl signalled)
    · rw [published_putPublished, Option.some.injEq] at published
      exact .inr (by rw [← same, ← published, latest])
  records_numbered := by
    rw [records_putPublished, generation_putPublished, generation_afterAttempt]
    exact consistent.afterAttempt_numbered result
  started_launched := by
    rw [records_putPublished]
    exact consistent.afterAttempt_started orderly
  launched_accounted := by
    apply consistent.afterAttempt_accounted result (records_putPublished _ _)
    · exact Keeps.of_empty empty fun _ signalled => signalled
    · intro _
      exact .inr ⟨running, published_putPublished _ _, latest⟩

/-- With an empty slot, an attempt leaves a consistent harness whatever becomes of it. -/
theorem bringUp (consistent : harness.Consistent) (empty : harness.published = none)
    (circumstances : Circumstances Configuration Instance)
    (overrides : List (Override Configuration)) :
    (harness.bringUp circumstances overrides).2.Consistent := by
  have orderly := attempt_orderly harness.settings circumstances overrides
  rcases harness.bringUp_cases circumstances overrides with
    ⟨server, endpoints, _, _, done⟩ | ⟨error, _, _, failed⟩ | ⟨error, _, unlaunched, failed⟩ |
      ⟨text, _, unlaunched, panicked⟩
  · rw [done]
    exact consistent.afterAttempt_publish empty orderly _ rfl
  · rw [failed]
    exact consistent.afterAttempt_signal empty orderly
  · rw [failed]
    exact consistent.afterAttempt empty orderly unlaunched
  · rw [panicked]
    exact (consistent.afterAttempt empty orderly unlaunched).poison

/-- A call finds the published server, or an empty slot and makes an attempt. There is no third
case: a server that was told to shut down never stands in the slot. -/
theorem ensureRunning_eq (consistent : harness.Consistent)
    (circumstances : Circumstances Configuration Instance)
    (overrides : List (Override Configuration)) :
    harness.ensureRunning circumstances overrides =
      match harness.published with
      | some running => (.done (running, ⟨running.generation⟩), harness)
      | none => harness.bringUp circumstances overrides := by
  unfold Harness.ensureRunning
  rw [consistent.reusable_eq]
  cases found : harness.published with
  | none => simp only [withdraw_of_empty found]
  | some running => rfl

theorem ensureRunning (consistent : harness.Consistent)
    (circumstances : Circumstances Configuration Instance)
    (overrides : List (Override Configuration)) :
    (harness.ensureRunning circumstances overrides).2.Consistent := by
  rw [consistent.ensureRunning_eq]
  cases found : harness.published with
  | none => exact consistent.bringUp found circumstances overrides
  | some running => exact consistent

theorem keeps_ensureRunning (consistent : harness.Consistent)
    (circumstances : Circumstances Configuration Instance)
    (overrides : List (Override Configuration)) :
    Keeps harness (harness.ensureRunning circumstances overrides).2 := by
  rw [consistent.ensureRunning_eq]
  cases found : harness.published with
  | some running => exact Keeps.refl harness
  | none =>
      apply Keeps.of_empty found
      intro generation signalled
      rcases harness.bringUp_cases circumstances overrides with
        ⟨server, endpoints, _, _, ended⟩ | ⟨error, _, _, ended⟩ | ⟨error, _, _, ended⟩ |
          ⟨text, _, _, ended⟩ <;>
        rw [ended] <;> simp [signalled]

/-- Whoever gets a server gets the one that is published from then on, with a closer of the same
attempt, and nobody had signalled it before. -/
theorem ensureRunning_done (consistent : harness.Consistent)
    (circumstances : Circumstances Configuration Instance)
    (overrides : List (Override Configuration)) {running : Running Instance} {closer : Closer}
    (done : (harness.ensureRunning circumstances overrides).1 = .done (running, closer)) :
    (harness.ensureRunning circumstances overrides).2.published = some running ∧
      closer.generation = running.generation ∧
      harness.isSignalled running.generation = false := by
  rw [consistent.ensureRunning_eq] at done ⊢
  cases found : harness.published with
  | some published =>
      rw [found] at done
      cases done
      exact ⟨found, rfl, consistent.published_open running found⟩
  | none =>
      rw [found] at done
      rcases harness.bringUp_cases circumstances overrides with
        ⟨server, endpoints, _, _, ended⟩ | ⟨error, _, _, ended⟩ | ⟨error, _, _, ended⟩ |
          ⟨text, _, _, ended⟩ <;>
        simp only [ended] at done ⊢ <;> cases done
      exact ⟨published_putPublished _ _, rfl, consistent.next_open⟩

/-- A call that does not return a server met an empty slot, and leaves it empty. -/
theorem ensureRunning_undone (consistent : harness.Consistent)
    (circumstances : Circumstances Configuration Instance)
    (overrides : List (Override Configuration))
    (undone : ∀ result, (harness.ensureRunning circumstances overrides).1 ≠ .done result) :
    harness.published = none ∧
      (harness.ensureRunning circumstances overrides).2.published = none := by
  rw [consistent.ensureRunning_eq] at undone ⊢
  cases found : harness.published with
  | some published =>
      rw [found] at undone
      exact absurd rfl (undone _)
  | none =>
      rw [found] at undone
      refine ⟨rfl, ?_⟩
      rcases harness.bringUp_cases circumstances overrides with
        ⟨server, endpoints, _, _, ended⟩ | ⟨error, _, _, ended⟩ | ⟨error, _, _, ended⟩ |
          ⟨text, _, _, ended⟩
      · exact absurd (congrArg Prod.fst ended) (undone _)
      all_goals
        simp only [ended]
        simp [found]

/-- At most one thread was not told to shut down. -/
theorem live_length_le_one (consistent : harness.Consistent) : harness.live.length ≤ 1 := by
  have latest : ∀ generation ∈ harness.live.map LaunchRecord.generation,
      generation ∈ [harness.generation] := by
    intro generation member
    rcases List.mem_map.mp member with ⟨record, listed, rfl⟩
    rw [live, List.mem_filter, Bool.and_eq_true, Bool.not_eq_true'] at listed
    rcases listed with ⟨recorded, launched, unsignalled⟩
    rcases consistent.launched_accounted record recorded launched with
      signalled | ⟨running, published, same⟩
    · rw [unsignalled] at signalled
      cases signalled
    · rw [← same, consistent.published_latest running published]
      exact List.mem_singleton_self _
  have distinct : (harness.live.map LaunchRecord.generation).Nodup := by
    apply List.Nodup.sublist (List.filter_sublist.map _)
    rw [consistent.records_numbered]
    exact List.nodup_range'
  simpa using distinct.length_le_of_subset latest

end Consistent

end MeshControl.Harness
