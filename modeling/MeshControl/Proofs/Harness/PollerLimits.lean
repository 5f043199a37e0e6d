import Mathlib.Algebra.Group.Nat.Defs
import MeshControl.Harness.Readiness
import MeshControl.Proofs.Duration.Exact

/-!
Which settings a poller refuses, and what it says about them.

A probe has to be over before the next one is due, and there has to be some time to become ready. The
first of these is looked at first. If it does not hold, both durations are in the message. A duration
has no blank in its text, so the first ends where the words go on, and both are known to the
nanosecond.

Main statement: `Poller.new_exact`.
-/

namespace MeshControl.Harness

theorem SetupFault.attemptTooLong_message_inj {attempt interval attempt' interval' : Duration}
    (same : (attemptTooLong attempt interval).message =
      (attemptTooLong attempt' interval').message) :
    attempt = attempt' ∧ interval = interval' := by
  have letters := congrArg String.toList same
  unfold message at letters
  simp only [String.toList_append, List.append_assoc] at letters
  have blank : " must be shorter than poll interval ".toList =
      ' ' :: "must be shorter than poll interval ".toList := by decide
  simp only [blank, List.cons_append] at letters
  rcases Text.append_inj_of_mark attempt.blank_not_mem_text attempt'.blank_not_mem_text
    (List.append_cancel_left letters) with ⟨first, rest⟩
  exact ⟨Duration.text_injective (String.toList_inj.mp first),
    Duration.text_injective (String.toList_inj.mp (List.append_cancel_left rest))⟩

/-- The two faults of a poller do not have a message in common. -/
theorem SetupFault.attemptTooLong_message_ne (attempt interval : Duration) :
    (attemptTooLong attempt interval).message ≠ noBudget.message := by
  intro same
  have first := congrArg (·.toList.head?) same
  unfold message at first
  simp at first

namespace Poller

variable {interval budget attempt : Duration}

theorem exists_new_iff :
    (∃ poller, new interval budget attempt = .ok poller) ↔
      attempt.nanoseconds < interval.nanoseconds ∧ budget.nanoseconds ≠ 0 := by
  unfold new
  split_ifs with short some
  · exact ⟨fun _ => ⟨short, Nat.ne_of_gt some⟩, fun _ => ⟨_, rfl⟩⟩
  · refine iff_of_false (by rintro ⟨poller, ⟨⟩⟩) fun fits => some (Nat.pos_of_ne_zero fits.2)
  · exact iff_of_false (by rintro ⟨poller, ⟨⟩⟩) fun fits => short fits.1

theorem new_eq_error_iff {fault : SetupFault} :
    new interval budget attempt = .error fault ↔
      interval.nanoseconds ≤ attempt.nanoseconds ∧ fault = .attemptTooLong attempt interval ∨
        attempt.nanoseconds < interval.nanoseconds ∧ budget.nanoseconds = 0 ∧
          fault = .noBudget := by
  unfold new
  split_ifs with short some
  · refine iff_of_false (by rintro ⟨⟩) ?_
    rintro (⟨long, -⟩ | ⟨-, none, -⟩) <;> omega
  · have none : budget.nanoseconds = 0 := Nat.eq_zero_of_not_pos some
    simp [short, none, Nat.not_le_of_lt short, eq_comm]
  · simp [short, Nat.le_of_not_lt short, eq_comm]

/-- A poller is made exactly if an attempt takes less time altogether than an interval, and there is a
budget. What takes less time has fewer whole seconds, or as many and fewer nanoseconds. An attempt that
takes as long is reported before a budget that is not there. Two refusals for such an attempt have the
same message only if they are about the same attempt and the same interval, and no other refusal has
that message. -/
theorem new_exact (interval budget attempt : Duration.Parts) :
    ((∃ poller, new interval.duration budget.duration attempt.duration = .ok poller) ↔
      attempt.duration.nanoseconds < interval.duration.nanoseconds ∧
        budget.duration.nanoseconds ≠ 0) ∧
    (attempt.duration.nanoseconds < interval.duration.nanoseconds ↔
      attempt.seconds < interval.seconds ∨
        attempt.seconds = interval.seconds ∧ attempt.nanoseconds < interval.nanoseconds) ∧
    (∀ fault, new interval.duration budget.duration attempt.duration = .error fault ↔
      interval.duration.nanoseconds ≤ attempt.duration.nanoseconds ∧
        fault = .attemptTooLong attempt.duration interval.duration ∨
      attempt.duration.nanoseconds < interval.duration.nanoseconds ∧
        budget.duration.nanoseconds = 0 ∧ fault = .noBudget) ∧
    ∀ (interval' budget' attempt' : Duration.Parts) (fault fault' : SetupFault),
      interval.duration.nanoseconds ≤ attempt.duration.nanoseconds →
      new interval.duration budget.duration attempt.duration = .error fault →
      new interval'.duration budget'.duration attempt'.duration = .error fault' →
      (HarnessError.configuration fault).message = (HarnessError.configuration fault').message →
      attempt = attempt' ∧ interval = interval' := by
  refine ⟨exists_new_iff, Duration.Parts.nanoseconds_duration_lt_iff, fun _ => new_eq_error_iff, ?_⟩
  intro interval' budget' attempt' fault fault' long refused refused' same
  have words : fault.message = fault'.message := String.append_right_inj _ |>.mp same
  rcases new_eq_error_iff.mp refused with ⟨-, rfl⟩ | ⟨short, -⟩
  · rcases new_eq_error_iff.mp refused' with ⟨-, rfl⟩ | ⟨-, -, rfl⟩
    · rcases SetupFault.attemptTooLong_message_inj words with ⟨attempts, intervals⟩
      exact ⟨Duration.Parts.duration_injective attempts,
        Duration.Parts.duration_injective intervals⟩
    · exact absurd words (SetupFault.attemptTooLong_message_ne _ _)
  · exact absurd long (Nat.not_le_of_lt short)

/-- An attempt of a second and an interval that is short of it by a nanosecond: the one is written in
seconds and the other in milliseconds, and nothing else is refused in these words. There is no budget
either, which is not reported. -/
theorem new_exact_border :
    new ⟨999999999⟩ ⟨0⟩ ⟨1000000000⟩ = .error (.attemptTooLong ⟨1000000000⟩ ⟨999999999⟩) ∧
      (HarnessError.configuration (.attemptTooLong ⟨1000000000⟩ ⟨999999999⟩)).message =
        "Configuration error: Probe timeout 1s must be shorter than poll interval 999.999999ms" ∧
      ∀ (interval budget attempt : Duration.Parts) (fault : SetupFault),
        new interval.duration budget.duration attempt.duration = .error fault →
        (HarnessError.configuration fault).message =
          "Configuration error: Probe timeout 1s must be shorter than poll interval 999.999999ms" →
        attempt = ⟨1, 0⟩ ∧ interval = ⟨0, 999999999⟩ := by
  have refused : new ⟨999999999⟩ ⟨0⟩ ⟨1000000000⟩ =
      .error (.attemptTooLong ⟨1000000000⟩ ⟨999999999⟩) := rfl
  have message : (HarnessError.configuration
      (.attemptTooLong ⟨1000000000⟩ ⟨999999999⟩)).message =
        "Configuration error: Probe timeout 1s must be shorter than poll interval 999.999999ms" := by
    decide
  refine ⟨refused, message, ?_⟩
  intro interval budget attempt fault refused' message'
  rcases (new_exact ⟨0, 999999999⟩ ⟨0, 0⟩ ⟨1, 0⟩).2.2.2 interval budget attempt _ fault (by decide)
    refused refused' (message.trans message'.symm) with ⟨rfl, rfl⟩
  exact ⟨rfl, rfl⟩

end Poller

end MeshControl.Harness
