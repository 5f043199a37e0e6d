import MeshControl.Web.Client

/-!
Where redirections lead, and what a client reports in the end.

A client that follows redirections does not say which page gave it its answer. What it reports is told
here by the way that it went. Each page on the way but the last is a redirection, there are not too
many of them, and their delays add up. The last page is the one whose status is reported. A status
other than that of a redirection is reported exactly if there is such a way to a page with it, and a way
of no steps ends at the page that was asked for.

Main statement: `fetch_within_succeeded_iff`.
-/

namespace MeshControl.Web

open Harness (ProbeReply readyStatus)

variable {State : Type}

/-! ## Ways -/

/-- A way along redirections from one page to another, with what the site is like before and after it
and the time that it takes. -/
inductive Leads (site : Site State) : Nat → Url → State → Url → State → Nat → Prop where
  | stays (page : Url) (state : State) : Leads site 0 page state page state 0
  | goesOn {page next final : Url} {state last : State} {status steps time : Nat}
      {answer : PageAnswer} {location : String}
      (asked : (site page state).1 = .answered status answer)
      (isRedirection : status ∈ redirectStatuses) (given : answer.location = some location)
      (leadsTo : nextPage page location = some next)
      (way : Leads site steps next (site page state).2 final last time) :
      Leads site (steps + 1) page state final last (answer.delay.nanoseconds + time)

/-- A reply sends a client on if it is a redirection to an address. -/
theorem onward_eq_some_iff {page next : Url} {reply : PageReply} {delay : Duration} :
    reply.onward page = some (delay, next) ↔
      ∃ status answer location, reply = .answered status answer ∧ status ∈ redirectStatuses ∧
        answer.location = some location ∧ nextPage page location = some next ∧
        delay = answer.delay := by
  cases reply with
  | failed | silent =>
      refine iff_of_false (by rintro ⟨⟩) ?_
      rintro ⟨status, answer, location, ⟨⟩, -⟩
  | answered status answer =>
      constructor
      · intro sent
        rcases Option.bind_eq_some_iff.mp sent with ⟨location, redirected, sent⟩
        rcases Option.bind_eq_some_iff.mp sent with ⟨next, leadsTo, ⟨⟩⟩
        rw [redirection, Option.ite_none_right_eq_some] at redirected
        exact ⟨status, answer, location, rfl, List.contains_iff_mem.mp redirected.1, redirected.2,
          leadsTo, rfl⟩
      · rintro ⟨_, _, location, ⟨⟩, isRedirection, given, leadsTo, rfl⟩
        simp [PageReply.onward, redirection, isRedirection, given, leadsTo]

theorem onward_of_not_mem {status : Nat} (ends : status ∉ redirectStatuses) (page : Url)
    (answer : PageAnswer) : (PageReply.answered status answer).onward page = none := by
  simp [PageReply.onward, redirection, ends]

theorem report_eq_answered_iff {reply : PageReply} {status : Nat} {delay : Duration}
    {body : Option Duration} :
    reply.report = .answered status delay body ↔
      ∃ answer, reply = .answered status answer ∧ delay = answer.delay ∧ body = answer.body := by
  cases reply with
  | failed | silent =>
      refine iff_of_false (by rintro ⟨⟩) ?_
      rintro ⟨answer, ⟨⟩, -⟩
  | answered found answer =>
      constructor
      · rintro ⟨⟩
        exact ⟨answer, rfl, rfl, rfl⟩
      · rintro ⟨_, ⟨⟩, rfl, rfl⟩
        rfl

/-! ## Replies -/

theorem after_eq_answered_iff {reply : ProbeReply} {time delay : Duration} {status : Nat}
    {body : Option Duration} :
    reply.after time = .answered status delay body ↔
      ∃ rest : Duration, reply = .answered status rest body ∧
        delay = ⟨time.nanoseconds + rest.nanoseconds⟩ := by
  cases reply with
  | answered found rest body' =>
      constructor
      · rintro ⟨⟩
        exact ⟨rest, rfl, rfl⟩
      · rintro ⟨_, ⟨⟩, rfl⟩
        rfl
  | failed rest =>
      refine iff_of_false (by rintro ⟨⟩) ?_
      rintro ⟨_, ⟨⟩, -⟩
  | silent =>
      refine iff_of_false (by rintro ⟨⟩) ?_
      rintro ⟨_, ⟨⟩, -⟩

section Follow

variable {site : Site State} {page next : Url} {state : State} {status redirects : Nat}
  {delay : Duration} {body : Option Duration}

theorem follow_of_ends (ends : (site page state).1.onward page = none) :
    (follow site redirects page state).1 = (site page state).1.report := by
  rw [follow]
  simp only [ends]

theorem follow_of_sent (sent : (site page state).1.onward page = some (delay, next)) :
    (follow site (redirects + 1) page state).1 =
      (follow site redirects next (site page state).2).1.after delay := by
  rw [follow]
  simp only [sent]

/-- Nobody is told the status of a redirection that comes too late to be followed. -/
theorem follow_of_exhausted (sent : (site page state).1.onward page = some (delay, next)) :
    (follow site 0 page state).1 = .failed delay := by
  rw [follow]
  simp only [sent]

/-- A way of some steps at most leads to a page that answers with a status after some time. -/
def Arrives (site : Site State) (redirects : Nat) (page : Url) (state : State) (status : Nat)
    (delay : Duration) (body : Option Duration) : Prop :=
  ∃ steps ≤ redirects, ∃ final last time answer, Leads site steps page state final last time ∧
    (site final last).1 = .answered status answer ∧
    delay = ⟨time + answer.delay.nanoseconds⟩ ∧ body = answer.body

theorem arrives_of_ends (ends : (site page state).1.onward page = none)
    (reported : (follow site redirects page state).1 = .answered status delay body) :
    Arrives site redirects page state status delay body := by
  rw [follow_of_ends ends] at reported
  rcases report_eq_answered_iff.mp reported with ⟨answer, asked, rfl, rfl⟩
  exact ⟨0, redirects.zero_le, page, state, 0, answer, .stays page state, asked, by simp, rfl⟩

theorem arrives_of_follow
    (reported : (follow site redirects page state).1 = .answered status delay body) :
    Arrives site redirects page state status delay body := by
  induction redirects generalizing page state delay with
  | zero =>
      cases sent : (site page state).1.onward page with
      | none => exact arrives_of_ends sent reported
      | some onward =>
          rw [follow_of_exhausted sent] at reported
          cases reported
  | succ redirects inductionHypothesis =>
      cases sent : (site page state).1.onward page with
      | none => exact arrives_of_ends sent reported
      | some onward =>
          rw [follow_of_sent sent] at reported
          rcases after_eq_answered_iff.mp reported with ⟨rest, behind, rfl⟩
          rcases inductionHypothesis behind with
            ⟨steps, within, final, last, time, atEnd, way, asked', rfl, rfl⟩
          rcases onward_eq_some_iff.mp sent with
            ⟨found, answer, location, asked, isRedirection, given, leadsTo, same⟩
          refine ⟨steps + 1, Nat.succ_le_succ within, final, last, _, atEnd,
            .goesOn asked isRedirection given leadsTo way, asked', ?_, rfl⟩
          rw [same, Nat.add_assoc]

theorem follow_of_arrives (ends : status ∉ redirectStatuses)
    (arrives : Arrives site redirects page state status delay body) :
    (follow site redirects page state).1 = .answered status delay body := by
  rcases arrives with ⟨steps, within, final, last, time, answer, way, asked, rfl, rfl⟩
  induction way generalizing redirects with
  | stays page state =>
      rw [follow_of_ends (by rw [asked, onward_of_not_mem ends]), asked, Nat.zero_add]
      rfl
  | goesOn asked' isRedirection given leadsTo way inductionHypothesis =>
      have sent := onward_eq_some_iff.mpr ⟨_, _, _, asked', isRedirection, given, leadsTo, rfl⟩
      rcases Nat.exists_eq_add_of_le' within with ⟨more, rfl⟩
      rw [← Nat.add_assoc, follow_of_sent sent, inductionHypothesis (Nat.le_add_left _ _) asked,
        ProbeReply.after, Nat.add_assoc]

end Follow

/-! ## Good probes -/

theorem within_succeeded_iff {reply : ProbeReply} {limit : Duration} :
    (reply.within limit).succeeded = true ↔
      ∃ delay body, reply = .answered readyStatus delay body ∧
        delay.nanoseconds < limit.nanoseconds := by
  cases reply with
  | answered status delay body =>
      simp only [ProbeReply.within]
      split
      case isTrue inTime =>
        constructor
        · intro good
          exact ⟨delay, body, by rw [beq_iff_eq.mp good], inTime⟩
        · rintro ⟨_, _, ⟨⟩, -⟩
          exact beq_self_eq_true readyStatus
      case isFalse late =>
        refine iff_of_false Bool.false_ne_true ?_
        rintro ⟨_, _, ⟨⟩, inTime⟩
        exact late inTime
  | failed delay => simp [ProbeReply.within]
  | silent => simp [ProbeReply.within]

/-- An address gives the status of a good probe in time: its page does, or redirections lead from it to
a page that does. -/
def IsGood (site : Site State) (address : String) (state : State) (limit : Duration) : Prop :=
  ∃ page, Url.read none address.toList = some page ∧
    ∃ steps ≤ maxRedirects, ∃ final last time answer,
      Leads site steps page state final last time ∧
      (site final last).1 = .answered readyStatus answer ∧
      time + answer.delay.nanoseconds < limit.nanoseconds

theorem fetch_within_succeeded_iff {site : Site State} {address : String} {state : State}
    {limit : Duration} :
    ((fetch site address state).1.within limit).succeeded = true ↔
      IsGood site address state limit := by
  have ends : readyStatus ∉ redirectStatuses := by decide
  rw [within_succeeded_iff, fetch, IsGood]
  cases read : Url.read none address.toList with
  | none =>
      refine iff_of_false ?_ ?_
      · rintro ⟨delay, body, ⟨⟩, -⟩
      · rintro ⟨page, ⟨⟩, -⟩
  | some page =>
      constructor
      · rintro ⟨delay, body, reported, inTime⟩
        rcases arrives_of_follow reported with
          ⟨steps, within, final, last, time, answer, way, asked, rfl, rfl⟩
        exact ⟨page, rfl, steps, within, final, last, time, answer, way, asked, inTime⟩
      · rintro ⟨_, ⟨⟩, steps, within, final, last, time, answer, way, asked, inTime⟩
        exact ⟨_, _, follow_of_arrives ends
          ⟨steps, within, final, last, time, answer, way, asked, rfl, rfl⟩, inTime⟩

end MeshControl.Web
