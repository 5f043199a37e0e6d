import Mathlib.Data.Nat.Find
import MeshControl.Harness.ScriptedServer
import MeshControl.Proofs.Web.Redirection

/-!
When a server is probed, and what ends the wait for it.

The probes of a wait that nothing ends would go on for ever, each an interval after the one before.
An actual wait makes the probes at the beginning of that endless schedule, up to the first good one or
to the last that begins before the time is up. So what comes of the wait is a question about the
schedule: whether its first good probe is over before the time is. What makes a probe good is told by
the pages of the site, and redirections are followed there.

The settings of a wait are checked before it, but not all that the schedule depends on. The first probe
comes a whole interval after the call, so that an interval longer than the time allowed leaves no room
for any probe, and such settings are accepted like others.

Main statements: `Poller.watch_outcome` and `Poller.wait_of_accepted`.
-/

namespace MeshControl.Harness

namespace Poller

section Schedule

variable (poller : Poller) (replies : Nat → ProbeReply)

/-! ## The schedule -/

/-- The probes of a wait that nothing ends, by their number. -/
def probeAt : Nat → Probe
  | 0 => poller.probeAfter replies 0 0
  | number + 1 => poller.probeAfter replies (probeAt number).ended (number + 1)

/-- When the probe before one is over; nothing is before the first. -/
def endedBefore : Nat → Nat
  | 0 => 0
  | number + 1 => (poller.probeAt replies number).ended

theorem probeAt_eq_probeAfter (number : Nat) :
    poller.probeAt replies number =
      poller.probeAfter replies (poller.endedBefore replies number) number := by
  cases number <;> rfl

theorem began_probeAt (number : Nat) :
    (poller.probeAt replies number).began =
      poller.endedBefore replies number + poller.pollInterval.nanoseconds := by
  rw [probeAt_eq_probeAfter]
  rfl

theorem succeeded_probeAt (number : Nat) :
    (poller.probeAt replies number).succeeded =
      ((replies number).within poller.attemptTimeout).succeeded := by
  rw [probeAt_eq_probeAfter]
  rfl

theorem began_le_ended (number : Nat) :
    (poller.probeAt replies number).began ≤ (poller.probeAt replies number).ended := by
  rw [probeAt_eq_probeAfter]
  exact Nat.le_add_right _ _

/-- A probe is over when its time is up. -/
theorem took_within_le (reply : ProbeReply) (limit : Duration) :
    (reply.within limit).took.nanoseconds ≤ limit.nanoseconds := by
  cases reply with
  | answered status delay body =>
      simp only [ProbeReply.within]
      split
      · cases body with
        | none => exact Nat.le_refl _
        | some rest => exact Nat.min_le_left _ _
      · exact Nat.le_refl _
  | failed delay => exact Nat.min_le_left _ _
  | silent => exact Nat.le_refl _

theorem ended_le (number : Nat) :
    (poller.probeAt replies number).ended ≤
      (poller.probeAt replies number).began + poller.attemptTimeout.nanoseconds := by
  rw [probeAt_eq_probeAfter]
  exact Nat.add_le_add_left (took_within_le _ _) _

theorem ended_lt_began {earlier later : Nat} (before : earlier < later) :
    (poller.probeAt replies earlier).ended < (poller.probeAt replies later).began := by
  have next (number : Nat) : (poller.probeAt replies number).ended <
      (poller.probeAt replies (number + 1)).began := by
    have := poller.attempt_lt_interval
    rw [began_probeAt, endedBefore]
    omega
  induction before with
  | refl => exact next earlier
  | step before inductionHypothesis =>
      exact Nat.lt_trans (Nat.lt_of_lt_of_le inductionHypothesis (poller.began_le_ended replies _))
        (next _)

/-! ## The probes that are made -/

/-- The probes from some number on are those of the schedule that begin before the time is up, up to
the first good one. -/
theorem probesUntil_eq (limit number : Nat) :
    ∃ count, poller.probesUntil replies limit (poller.endedBefore replies number) number =
        (List.range' number count).map (poller.probeAt replies) ∧
      ∀ ahead, ahead < count ↔ (poller.probeAt replies (number + ahead)).began ≤ limit ∧
        ∀ earlier < ahead, (poller.probeAt replies (number + earlier)).succeeded = false := by
  generalize left : limit - poller.endedBefore replies number = remaining
  induction remaining using Nat.strongRecOn generalizing number with
  | _ remaining inductionHypothesis =>
    have later {ahead : Nat} (more : 0 < ahead) : (poller.probeAt replies number).ended <
        (poller.probeAt replies (number + ahead)).began := poller.ended_lt_began replies (by omega)
    have begins := poller.began_le_ended replies number
    rw [probesUntil, ← probeAt_eq_probeAfter]
    by_cases late : limit < (poller.probeAt replies number).began
    · refine ⟨0, if_pos late, fun ahead => iff_of_false ahead.not_lt_zero ?_⟩
      rintro ⟨begun, -⟩
      rcases ahead.eq_zero_or_pos with rfl | more
      · exact Nat.not_le_of_lt late begun
      · have := later more
        omega
    by_cases cut : limit < (poller.probeAt replies number).ended
    · refine ⟨1, by rw [if_neg late, if_pos cut]; rfl, fun ahead => ?_⟩
      rcases ahead.eq_zero_or_pos with rfl | more
      · exact iff_of_true Nat.one_pos ⟨Nat.le_of_not_lt late, by omega⟩
      · have := later more
        exact iff_of_false (by omega) fun made => by omega
    by_cases good : (poller.probeAt replies number).succeeded = true
    · refine ⟨1, by rw [if_neg late, if_neg cut, if_pos good]; rfl, fun ahead => ?_⟩
      rcases ahead.eq_zero_or_pos with rfl | more
      · exact iff_of_true Nat.one_pos ⟨Nat.le_of_not_lt late, by omega⟩
      · refine iff_of_false (by omega) ?_
        rintro ⟨-, bad⟩
        exact Bool.eq_false_iff.mp (bad 0 more) good
    · rw [if_neg late, if_neg cut, if_neg good]
      have finished : (poller.probeAt replies number).ended =
          poller.endedBefore replies (number + 1) := rfl
      have took : poller.endedBefore replies number < (poller.probeAt replies number).ended := by
        rw [probeAt_eq_probeAfter]
        exact poller.lt_ended_probeAfter replies _ number
      rcases inductionHypothesis _ (by omega) (number + 1) rfl with ⟨count, made, extent⟩
      refine ⟨count + 1, ?_, fun ahead => ?_⟩
      · rw [finished, made, List.range'_succ, List.map_cons]
      · cases ahead with
        | zero => exact iff_of_true count.succ_pos ⟨Nat.le_of_not_lt late, by omega⟩
        | succ ahead =>
            have shift (ahead : Nat) : number + 1 + ahead = number + (ahead + 1) := by omega
            simp only [Nat.succ_lt_succ_iff, extent, shift]
            refine and_congr_right fun _ => ⟨fun bad earlier before => ?_, fun bad earlier before => ?_⟩
            · cases earlier with
              | zero => exact Bool.eq_false_iff.mpr good
              | succ earlier => exact bad earlier (Nat.lt_of_succ_lt_succ before)
            · exact bad (earlier + 1) (Nat.succ_lt_succ before)

/-- A wait makes the probes of the schedule that begin before the time is up, up to the first good
one. -/
theorem exists_count_probes (limit : Nat) :
    ∃ count, poller.probesUntil replies limit 0 0 =
        (List.range count).map (poller.probeAt replies) ∧
      ∀ number, number < count ↔ (poller.probeAt replies number).began ≤ limit ∧
        ∀ earlier < number, (poller.probeAt replies earlier).succeeded = false := by
  rcases poller.probesUntil_eq replies limit 0 with ⟨count, made, extent⟩
  simp only [Nat.zero_add] at extent
  exact ⟨count, by rw [List.range_eq_range']; exact made, extent⟩

/-! ## The end of a wait -/

/-- How a wait ends that no good probe ends: it is called off, or the time allowed is spent. -/
theorem deadline_cases (calledOff : Option Duration) :
    (∃ time, calledOff = some time ∧ time.nanoseconds < poller.maxWait.nanoseconds ∧
      poller.deadline calledOff = (time.nanoseconds, .cancelled)) ∨
    (∀ time, calledOff = some time → poller.maxWait.nanoseconds ≤ time.nanoseconds) ∧
      poller.deadline calledOff = (poller.maxWait.nanoseconds, .timedOut) := by
  cases calledOff with
  | none => exact .inr ⟨by rintro time ⟨⟩, rfl⟩
  | some time =>
      by_cases early : time.nanoseconds < poller.maxWait.nanoseconds
      · exact .inl ⟨time, rfl, early, if_pos early⟩
      · refine .inr ⟨?_, if_neg early⟩
        rintro _ ⟨⟩
        exact Nat.le_of_not_lt early

theorem deadline_le (calledOff : Option Duration) :
    (poller.deadline calledOff).1 ≤ poller.maxWait.nanoseconds ∧
      ∀ time, calledOff = some time → (poller.deadline calledOff).1 ≤ time.nanoseconds := by
  rcases poller.deadline_cases calledOff with ⟨time, rfl, early, limited⟩ | ⟨late, limited⟩
  · rw [limited]
    refine ⟨Nat.le_of_lt early, ?_⟩
    rintro _ ⟨⟩
    exact Nat.le_refl _
  · rw [limited]
    exact ⟨Nat.le_refl _, late⟩

theorem deadline_ne_ready (calledOff : Option Duration) :
    (poller.deadline calledOff).2 ≠ .ready := by
  rcases poller.deadline_cases calledOff with ⟨time, rfl, early, limited⟩ | ⟨late, limited⟩
  · rw [limited]
    rintro ⟨⟩
  · rw [limited]
    rintro ⟨⟩

/-- Whoever finds a good probe in time finds the first good one in time. -/
theorem exists_first_good {limit number : Nat}
    (good : (poller.probeAt replies number).succeeded = true)
    (inTime : (poller.probeAt replies number).ended ≤ limit) :
    ∃ first, (poller.probeAt replies first).succeeded = true ∧
      (∀ earlier < first, (poller.probeAt replies earlier).succeeded = false) ∧
      (poller.probeAt replies first).ended ≤ limit := by
  have exists_good : ∃ number, (poller.probeAt replies number).succeeded = true := ⟨number, good⟩
  refine ⟨Nat.find exists_good, Nat.find_spec exists_good, ?_, ?_⟩
  · intro earlier before
    exact Bool.eq_false_iff.mpr (Nat.find_min exists_good before)
  · rcases Nat.lt_or_eq_of_le (Nat.find_min' exists_good good) with before | same
    · have := poller.ended_lt_began replies before
      have := poller.began_le_ended replies number
      omega
    · rw [same]
      exact inTime

/-- A wait ends with the first good probe of the schedule, if that is over before the time is up, and
otherwise when the time is up. -/
theorem watch_cases (calledOff : Option Duration) :
    (∃ number, (poller.probeAt replies number).succeeded = true ∧
      (∀ earlier < number, (poller.probeAt replies earlier).succeeded = false) ∧
      (poller.probeAt replies number).ended ≤ (poller.deadline calledOff).1 ∧
      (poller.watch replies calledOff).probes =
        (List.range (number + 1)).map (poller.probeAt replies) ∧
      (poller.watch replies calledOff).outcome = .ready ∧
      (poller.watch replies calledOff).ended = (poller.probeAt replies number).ended) ∨
    (∀ number, (poller.probeAt replies number).succeeded = true →
      (poller.deadline calledOff).1 < (poller.probeAt replies number).ended) ∧
      (poller.watch replies calledOff).outcome = (poller.deadline calledOff).2 ∧
      (poller.watch replies calledOff).ended = (poller.deadline calledOff).1 := by
  rcases limited : poller.deadline calledOff with ⟨limit, otherwise⟩
  rcases poller.exists_count_probes replies limit with
    ⟨count, made, extent⟩
  cases found : (poller.probesUntil replies limit 0 0).find?
      fun probe => probe.succeeded && probe.ended ≤ limit with
  | some good =>
      have member := List.mem_of_find?_eq_some found
      have inTime := List.find?_some found
      rw [made] at member
      rcases List.mem_map.mp member with ⟨number, begun, rfl⟩
      rw [List.mem_range] at begun
      simp only [Bool.and_eq_true, decide_eq_true_eq] at inTime
      refine .inl ⟨number, inTime.1, ((extent number).mp begun).2, inTime.2, ?_, ?_, ?_⟩
      · have last : ¬ number + 1 < count := by
          intro more
          have bad := ((extent (number + 1)).mp more).2 number number.lt_succ_self
          exact Bool.eq_false_iff.mp bad inTime.1
        have whole : count = number + 1 := by omega
        rw [whole] at made
        simp only [watch, limited, found]
        exact made
      · simp only [watch, limited, found]
      · simp only [watch, limited, found]
  | none =>
      refine .inr ⟨?_, ?_, ?_⟩
      · intro number good
        refine Nat.lt_of_not_le fun inTime => ?_
        rcases poller.exists_first_good replies good inTime with ⟨first, good, bad, inTime⟩
        have begun : first < count :=
          (extent first).mpr ⟨Nat.le_trans (poller.began_le_ended replies first) inTime, bad⟩
        have member : poller.probeAt replies first ∈ poller.probesUntil replies limit 0 0 := by
          rw [made]
          exact List.mem_map_of_mem (List.mem_range.mpr begun)
        have missed := List.find?_eq_none.mp found _ member
        simp [good, inTime] at missed
      · simp only [watch, limited, found]
      · simp only [watch, limited, found]

theorem probes_watch (calledOff : Option Duration) :
    (poller.watch replies calledOff).probes =
      poller.probesUntil replies (poller.deadline calledOff).1 0 0 := by
  rw [watch]
  dsimp only
  split <;> rfl

/-! ## Outcomes -/

variable {poller replies} {calledOff : Option Duration}

theorem exists_good_of_ready (ready : (poller.watch replies calledOff).outcome = .ready) :
    ∃ number, (poller.probeAt replies number).succeeded = true ∧
      (∀ earlier < number, (poller.probeAt replies earlier).succeeded = false) ∧
      (poller.watch replies calledOff).probes =
        (List.range (number + 1)).map (poller.probeAt replies) ∧
      (poller.watch replies calledOff).ended = (poller.probeAt replies number).ended ∧
      (poller.probeAt replies number).ended ≤ poller.maxWait.nanoseconds ∧
      ∀ time, calledOff = some time →
        (poller.probeAt replies number).ended ≤ time.nanoseconds := by
  have limits := poller.deadline_le calledOff
  rcases poller.watch_cases replies calledOff with
    ⟨number, good, bad, inTime, made, -, ended⟩ | ⟨-, outcome, -⟩
  · exact ⟨number, good, bad, made, ended, Nat.le_trans inTime limits.1,
      fun time called => Nat.le_trans inTime (limits.2 time called)⟩
  · exact absurd (outcome.symm.trans ready) (poller.deadline_ne_ready calledOff)

theorem ready_of_good {number : Nat} (good : (poller.probeAt replies number).succeeded = true)
    (inTime : (poller.probeAt replies number).ended < poller.maxWait.nanoseconds)
    (before : ∀ time, calledOff = some time →
      (poller.probeAt replies number).ended < time.nanoseconds) :
    (poller.watch replies calledOff).outcome = .ready := by
  rcases poller.watch_cases replies calledOff with
    ⟨-, -, -, -, -, ready, -⟩ | ⟨late, -, -⟩
  · exact ready
  · rcases poller.deadline_cases calledOff with ⟨time, called, -, limited⟩ | ⟨-, limited⟩
    · have := before time called
      rw [limited] at late
      exact absurd (late number good) (Nat.lt_asymm this)
    · rw [limited] at late
      exact absurd (late number good) (Nat.lt_asymm inTime)

/-- A wait that does not succeed goes on to the deadline, and no good probe is over by then. -/
theorem watch_of_not_ready (unready : (poller.watch replies calledOff).outcome ≠ .ready) :
    (∀ number, (poller.probeAt replies number).succeeded = true →
      (poller.deadline calledOff).1 ≤ (poller.probeAt replies number).ended) ∧
      (poller.watch replies calledOff).outcome = (poller.deadline calledOff).2 ∧
      (poller.watch replies calledOff).ended = (poller.deadline calledOff).1 := by
  rcases poller.watch_cases replies calledOff with
    ⟨-, -, -, -, -, ready, -⟩ | ⟨late, ends⟩
  · exact absurd ready unready
  · exact ⟨fun number good => Nat.le_of_lt (late number good), ends⟩

theorem of_cancelled (cancelled : (poller.watch replies calledOff).outcome = .cancelled) :
    ∃ time, calledOff = some time ∧
      (poller.watch replies calledOff).ended = time.nanoseconds ∧
      time.nanoseconds ≤ poller.maxWait.nanoseconds ∧
      ∀ number, (poller.probeAt replies number).succeeded = true →
        time.nanoseconds ≤ (poller.probeAt replies number).ended := by
  have unready : (poller.watch replies calledOff).outcome ≠ .ready := by
    rw [cancelled]
    rintro ⟨⟩
  rcases watch_of_not_ready unready with ⟨late, outcome, ended⟩
  rcases poller.deadline_cases calledOff with ⟨time, called, early, limited⟩ | ⟨-, limited⟩
  · rw [limited] at late ended
    exact ⟨time, called, ended, Nat.le_of_lt early, late⟩
  · rw [limited, cancelled] at outcome
    cases outcome

/-- A wait that nobody calls off is over when the server is ready or the time is spent. -/
theorem wait_none_ne_cancelled : poller.wait replies none ≠ .cancelled := by
  intro cancelled
  rcases of_cancelled cancelled with ⟨time, called, -⟩
  cases called

theorem of_timedOut (timedOut : (poller.watch replies calledOff).outcome = .timedOut) :
    (poller.watch replies calledOff).ended = poller.maxWait.nanoseconds ∧
      (∀ number, (poller.probeAt replies number).succeeded = true →
        poller.maxWait.nanoseconds ≤ (poller.probeAt replies number).ended) ∧
      ∀ time, calledOff = some time → poller.maxWait.nanoseconds ≤ time.nanoseconds := by
  have unready : (poller.watch replies calledOff).outcome ≠ .ready := by
    rw [timedOut]
    rintro ⟨⟩
  rcases watch_of_not_ready unready with ⟨late, outcome, ended⟩
  rcases poller.deadline_cases calledOff with ⟨time, called, early, limited⟩ | ⟨uncalled, limited⟩
  · rw [limited, timedOut] at outcome
    cases outcome
  · rw [limited] at late ended
    exact ⟨ended, late, uncalled⟩

end Schedule

/-- A wait probes on schedule, and is over with the first good probe or when the time is up.

The site may be another one at each probe, and may do anything. The first probe begins one interval
after the call, and each other one an interval after the one before it is over. The probes that are made
are the first of these, up to a good one. A probe is good if the address gives status 200 before the
probe has taken too long, from its own page or from the page that redirections lead to, and whatever
becomes of the body. The wait succeeds only with the first good probe, and only if that is over in the
time allowed and before the wait is called off. It is called off, or times out, only if no good probe is
over before. What comes first if two of these happen at the same moment is left open. -/
theorem watch_outcome {State : Type} (poller : Poller) (sites : Nat → Web.Site State)
    (states : Nat → State) (address : String) (calledOff : Option Duration) :
    let replies := fun number => (Web.fetch (sites number) address (states number)).1
    let probe := poller.probeAt replies
    let IsGood := fun number =>
      Web.IsGood (sites number) address (states number) poller.attemptTimeout
    let watch := poller.watch replies calledOff
    let outcome := poller.wait replies calledOff
    (probe 0).began = poller.pollInterval.nanoseconds ∧
    (∀ number, (probe number).began ≤ (probe number).ended ∧
      (probe number).ended ≤ (probe number).began + poller.attemptTimeout.nanoseconds ∧
      (probe (number + 1)).began = (probe number).ended + poller.pollInterval.nanoseconds) ∧
    (∃ count, watch.probes = (List.range count).map probe ∧
      ∀ number < count, ∀ earlier < number, ¬ IsGood earlier) ∧
    (∀ number, (probe number).succeeded = true ↔ IsGood number) ∧
    (outcome = .ready → ∃ number, IsGood number ∧ (∀ earlier < number, ¬ IsGood earlier) ∧
      watch.probes = (List.range (number + 1)).map probe ∧
      watch.ended = (probe number).ended ∧
      (probe number).ended ≤ poller.maxWait.nanoseconds ∧
      ∀ time, calledOff = some time → (probe number).ended ≤ time.nanoseconds) ∧
    (∀ number, IsGood number → (probe number).ended < poller.maxWait.nanoseconds →
      (∀ time, calledOff = some time → (probe number).ended < time.nanoseconds) →
      outcome = .ready) ∧
    (outcome = .cancelled → ∃ time, calledOff = some time ∧
      watch.ended = time.nanoseconds ∧ time.nanoseconds ≤ poller.maxWait.nanoseconds ∧
      ∀ number, IsGood number → time.nanoseconds ≤ (probe number).ended) ∧
    (outcome = .timedOut → watch.ended = poller.maxWait.nanoseconds ∧
      (∀ number, IsGood number → poller.maxWait.nanoseconds ≤ (probe number).ended) ∧
      ∀ time, calledOff = some time → poller.maxWait.nanoseconds ≤ time.nanoseconds) := by
  intro replies probe IsGood watch outcome
  have good (number : Nat) : (probe number).succeeded = true ↔ IsGood number := by
    rw [show (probe number).succeeded = _ from poller.succeeded_probeAt replies number]
    exact Web.fetch_within_succeeded_iff
  simp only [← good, Bool.not_eq_true]
  refine ⟨?_, ?_, ?_, fun _ => trivial, exists_good_of_ready, ?_, of_cancelled, of_timedOut⟩
  · exact (poller.began_probeAt replies 0).trans (Nat.zero_add _)
  · exact fun number => ⟨poller.began_le_ended replies number, poller.ended_le replies number,
      poller.began_probeAt replies (number + 1)⟩
  · rcases poller.exists_count_probes replies
      (poller.deadline calledOff).1 with ⟨count, made, extent⟩
    exact ⟨count, (poller.probes_watch replies calledOff).trans made,
      fun number begun => ((extent number).mp begun).2⟩
  · exact fun number => ready_of_good

/-! ## Redirections -/

/-- A site whose probed page is never good, and only leads to one that is. -/
def detour : Web.Site Nat :=
  ScriptedSite.web ⟨[⟨302, some "/ok", false⟩], "/ready"⟩ fun _ => true

theorem detour_probed {page : Web.Url} (probed : page.target = "/ready") (state : Nat) :
    (detour page state).1 = .atOnce 302 (some "/ok") := by
  simp [detour, ScriptedSite.web, ScriptedSite.answerOf, probed]

def brisk : Poller where
  pollInterval := .ofMilliseconds 50
  maxWait := .ofMilliseconds 400
  attemptTimeout := .ofMilliseconds 40
  attempt_lt_interval := by decide
  maxWait_pos := by decide

/-- Redirections are followed without being seen: a wait for a page that never gives status 200 itself
succeeds with the first probe. -/
theorem wait_detour :
    Poller.new (.ofMilliseconds 50) (.ofMilliseconds 400) (.ofMilliseconds 40) = .ok brisk ∧
      brisk.wait (Web.replies detour "http://127.0.0.1:8080/ready" 0) none = .ready ∧
      ∃ page, Web.Url.read none "http://127.0.0.1:8080/ready".toList = some page ∧
        ∀ state, (detour page state).1 = .atOnce 302 (some "/ok") := by
  have reply : Web.replies detour "http://127.0.0.1:8080/ready" 0 0 =
      .answered readyStatus ⟨0⟩ (some ⟨0⟩) := by decide +kernel
  have first : brisk.probeAt (Web.replies detour "http://127.0.0.1:8080/ready" 0) 0 =
      ⟨50000000, 50000000, true⟩ := by
    rw [probeAt, probeAfter, reply]
    rfl
  have inTime : (brisk.probeAt (Web.replies detour "http://127.0.0.1:8080/ready" 0) 0).ended <
      brisk.maxWait.nanoseconds := by
    rw [first]
    decide
  refine ⟨rfl, ready_of_good (congrArg Probe.succeeded first) inTime (by rintro _ ⟨⟩), ?_⟩
  have target : (Web.Url.read none "http://127.0.0.1:8080/ready".toList).map Web.Url.target =
      some "/ready" := by decide +kernel
  rcases Option.map_eq_some_iff.mp target with ⟨page, read, probed⟩
  exact ⟨page, read, detour_probed probed⟩

/-! ## Settings -/

theorem new_eq_ok_iff {pollInterval maxWait attemptTimeout : Duration} {poller : Poller} :
    new pollInterval maxWait attemptTimeout = .ok poller ↔
      poller.pollInterval = pollInterval ∧ poller.maxWait = maxWait ∧
        poller.attemptTimeout = attemptTimeout := by
  unfold new
  constructor
  · intro accepted
    split_ifs at accepted
    cases accepted
    exact ⟨rfl, rfl, rfl⟩
  · rintro ⟨rfl, rfl, rfl⟩
    rw [dif_pos poller.attempt_lt_interval, dif_pos poller.maxWait_pos]

/-- An address is read as that of a page, and the page is good at once whenever it is asked for. -/
def AnswersAtOnce {State : Type} (sites : Nat → Web.Site State) (states : Nat → State)
    (address : String) : Prop :=
  ∃ page, Web.Url.read none address.toList = some page ∧
    ∀ number, ∃ location, (sites number page (states number)).1 = .atOnce readyStatus location

theorem AnswersAtOnce.fetch {State : Type} {sites : Nat → Web.Site State} {states : Nat → State}
    {address : String} (atOnce : AnswersAtOnce sites states address) (number : Nat) :
    (Web.fetch (sites number) address (states number)).1 =
      .answered readyStatus ⟨0⟩ (some ⟨0⟩) := by
  rcases atOnce with ⟨page, read, answers⟩
  rcases answers number with ⟨location, answered⟩
  have ends : (sites number page (states number)).1.onward page = none := by
    rw [answered]
    exact Web.onward_of_not_mem (by decide) page _
  simp only [Web.fetch, read, Web.follow_of_ends ends, answered]
  rfl

variable {poller : Poller} {replies : Nat → ProbeReply}

/-- A probe that is answered at once is over when it begins. -/
theorem wait_of_atOnce (room : poller.pollInterval.nanoseconds < poller.maxWait.nanoseconds)
    (patient : 0 < poller.attemptTimeout.nanoseconds)
    (atOnce : replies 0 = .answered readyStatus ⟨0⟩ (some ⟨0⟩)) :
    poller.wait replies none = .ready := by
  have outcome : (replies 0).within poller.attemptTimeout = ⟨true, ⟨0⟩⟩ := by
    simp [atOnce, ProbeReply.within, patient]
  have first : poller.probeAt replies 0 =
      ⟨poller.pollInterval.nanoseconds, poller.pollInterval.nanoseconds, true⟩ := by
    simp [probeAt, probeAfter, outcome]
  refine ready_of_good (congrArg Probe.succeeded first) ?_ (by rintro _ ⟨⟩)
  rw [first]
  exact room

/-- No probe begins before the first interval is over. -/
theorem wait_of_no_room (late : poller.maxWait.nanoseconds < poller.pollInterval.nanoseconds) :
    poller.wait replies none = .timedOut := by
  cases outcome : poller.wait replies none with
  | timedOut => rfl
  | cancelled => exact absurd outcome wait_none_ne_cancelled
  | ready =>
      rcases exists_good_of_ready outcome with ⟨number, -, -, -, -, inTime, -⟩
      have began := poller.began_probeAt replies number
      have begins := poller.began_le_ended replies number
      omega

/-- Settings are accepted if a probe is over before the next one is due and there is some time to become
ready, and no more is asked of them. With an interval shorter than that time and any time at all for a
probe, the wait succeeds for an address that is always good at once. With an interval longer than that
time, it times out whatever the address is. -/
theorem wait_of_accepted (pollInterval maxWait attemptTimeout : Duration) :
    ((∃ poller, new pollInterval maxWait attemptTimeout = .ok poller) ↔
      attemptTimeout.nanoseconds < pollInterval.nanoseconds ∧ 0 < maxWait.nanoseconds) ∧
    ∀ poller, new pollInterval maxWait attemptTimeout = .ok poller →
      ∀ {State : Type} (sites : Nat → Web.Site State) (states : Nat → State) (address : String),
        let replies := fun number => (Web.fetch (sites number) address (states number)).1
        (AnswersAtOnce sites states address → pollInterval.nanoseconds < maxWait.nanoseconds →
          0 < attemptTimeout.nanoseconds → poller.wait replies none = .ready) ∧
        (maxWait.nanoseconds < pollInterval.nanoseconds →
          poller.wait replies none = .timedOut) := by
  constructor
  · constructor
    · rintro ⟨poller, accepted⟩
      rcases new_eq_ok_iff.mp accepted with ⟨rfl, rfl, rfl⟩
      exact ⟨poller.attempt_lt_interval, poller.maxWait_pos⟩
    · rintro ⟨attempt, budget⟩
      exact ⟨⟨_, _, _, attempt, budget⟩, new_eq_ok_iff.mpr ⟨rfl, rfl, rfl⟩⟩
  · intro poller accepted State sites states address replies
    rcases new_eq_ok_iff.mp accepted with ⟨rfl, rfl, rfl⟩
    exact ⟨fun atOnce room patient => wait_of_atOnce room patient (atOnce.fetch 0),
      wait_of_no_room⟩

/-- A site that is always good. -/
def steady : Web.Site Unit :=
  fun _ state => (.atOnce readyStatus none, state)

theorem steady_answersAtOnce : AnswersAtOnce (fun _ => steady) (fun _ => ())
    "http://127.0.0.1:8080/ready" := by
  have read : (Web.Url.read none "http://127.0.0.1:8080/ready".toList).isSome = true := by
    decide +kernel
  rcases Option.isSome_iff_exists.mp read with ⟨page, read⟩
  exact ⟨page, read, fun _ => ⟨none, rfl⟩⟩

/-- Eight intervals fit into the time that is allowed, and the first is enough. -/
theorem wait_of_accepted_steady :
    new (.ofMilliseconds 50) (.ofMilliseconds 400) (.ofMilliseconds 40) = .ok brisk ∧
      AnswersAtOnce (fun _ => steady) (fun _ => ()) "http://127.0.0.1:8080/ready" ∧
      brisk.wait (fun _ => (Web.fetch steady "http://127.0.0.1:8080/ready" ()).1) none =
        .ready := by
  have accepted : new (.ofMilliseconds 50) (.ofMilliseconds 400) (.ofMilliseconds 40) =
      .ok brisk := rfl
  rcases wait_of_accepted (.ofMilliseconds 50) (.ofMilliseconds 400) (.ofMilliseconds 40) with
    ⟨-, waits⟩
  rcases waits brisk accepted (fun _ => steady) (fun _ => ()) "http://127.0.0.1:8080/ready" with
    ⟨ready, -⟩
  exact ⟨accepted, steady_answersAtOnce, ready steady_answersAtOnce (by decide) (by decide)⟩

/-- A poller whose interval is longer than the time that it allows. -/
def hasty : Poller where
  pollInterval := .ofMilliseconds 500
  maxWait := .ofMilliseconds 100
  attemptTimeout := .ofMilliseconds 400
  attempt_lt_interval := by decide
  maxWait_pos := by decide

/-- Settings may be accepted that no site is good enough for. -/
theorem accepted_not_ready :
    new (.ofMilliseconds 500) (.ofMilliseconds 100) (.ofMilliseconds 400) = .ok hasty ∧
      AnswersAtOnce (fun _ => steady) (fun _ => ()) "http://127.0.0.1:8080/ready" ∧
      hasty.wait (fun _ => (Web.fetch steady "http://127.0.0.1:8080/ready" ()).1) none ≠
        .ready := by
  refine ⟨rfl, steady_answersAtOnce, ?_⟩
  rw [wait_of_no_room (by decide)]
  rintro ⟨⟩

end Poller

end MeshControl.Harness
