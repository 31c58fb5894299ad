import SinkReporter.Proofs.Client.Report
import SinkReporter.Proofs.Command.Course
import SinkReporter.Proofs.Command.Making
import SinkReporter.Proofs.Context.Resolution
import SinkReporter.Proofs.Http.Session
/-!
# Proofs.Command.Honesty — what the exit code of posting tells

Posting exits with zero for two reasons only: there is nowhere to report to, or the sink has taken the record of the
arguments and accepted it.  It never sends more than one request, and where there is no sink it does not even look at the
arguments (`post_honest`).
-/
namespace SinkReporter

open Http (Request Network Session SessionFault Sink Delivery sends)

/-- A delivery reports a record when it is the only one in its body. -/
def Http.Delivery.Reports (d : Delivery) (r : TestResult) : Prop :=
  ∃ v, Json.parse d.body = .ok (.object [("testResults", .array [v])]) ∧ TestResult.form.take v = .ok r

theorem Http.reports_of_build {e : Endpoint} {r : TestResult} (hr : r.WellFormed) {url : Http.Url} {d : Delivery}
    (hb : Http.build (buildRequest e r) = .ok (url, d)) : d.Reports r := by
  refine ⟨r.toJson, ?_, hr.readBack.value⟩
  rw [(Http.carries_of_build hb).body]
  exact parse_body e r

/-- **The clock can be set for a timeout** in any session that is opened under it. -/
def Http.Session.Waits (session : Session) (timeout : Option UInt64) : Prop :=
  ∀ opened, session.connect timeout = .ok opened → opened.canWait = true

theorem Http.Session.waits_iff {session opened : Session} {timeout : Option UInt64}
    (h : session.connect timeout = .ok opened) : session.Waits timeout ↔ opened.canWait = true := by
  constructor
  · exact fun hwaits => hwaits opened h
  · intro hw other hother
    cases h.symm.trans hother
    exact hw

namespace Command

/-- **The exit code is honest about what was sent**, each request with its answer.  There is no code but zero and one unless
the program was aborted, the clock having failed the one request. -/
structure Honest (w : World) (a : ResultArguments) (s : Settings) (code : Nat)
    (sent : List (Request × Except SessionFault Unit)) : Prop where
  ends : code = 0 ∨ code = 1 ∨ code = 134 ∧ ∃ request, sent = [(request, .error .clockOverflow)]
  once : sent.length ≤ 1
  success : code = 0 ↔
    (∃ fault, Context.tryResolve w s.contextVariable = .error fault) ∨
    ∃ e r, Context.tryResolve w s.contextVariable = .ok e ∧ Makes w a r ∧ sent = [(buildRequest e r, .ok ())]

/-- **The exit code is honest about the sink of a session**, given as it is afterwards.  A program that cannot set its clock
for the timeout is aborted, with the request sent or not. -/
structure HonestTo (w : World) (a : ResultArguments) (s : Settings) (session : Session) (code : Nat) (after : Sink) :
    Prop where
  ends : code = 0 ∨ code = 1 ∨ code = 134 ∧ ¬ session.Waits s.timeoutSecs
  once : after = session.sink ∨ ∃ d, after = (session.sink.take d).2
  success : code = 0 ↔
    (∃ fault, Context.tryResolve w s.contextVariable = .error fault) ∨
    session.Waits s.timeoutSecs ∧ ∃ r d, Makes w a r ∧ after.received = session.sink.received ++ [d] ∧ d.Reports r ∧
      (session.sink.take d).1.Accepts

section

variable {w : World} {a : ResultArguments} {s : Settings}

theorem honest_of_idle {code : Nat} (hcode : code = 1) {e : Endpoint}
    (he : Context.tryResolve w s.contextVariable = .ok e) : Honest w a s code [] :=
  ⟨.inr (.inl hcode), Nat.zero_le 1, by simp [hcode, he]⟩

theorem honestTo_of_idle {code : Nat} (hcode : code = 1) {e : Endpoint}
    (he : Context.tryResolve w s.contextVariable = .ok e) {session : Session} {after : Sink} (h : after = session.sink) :
    HonestTo w a s session code after :=
  ⟨.inr (.inl hcode), .inl h, by simp [hcode, he, h]⟩

/-- **Posting is honest about what it sends.** -/
theorem honest_post {σ : Type} (n : Network σ) (state : σ) :
    let posted := post n.watched (state, []) w s a
    Honest w a s posted.exit.code (sends posted.state.2) := by
  intro posted
  cases course_post n.watched (state, []) a w s with
  | skipped fault he hpost =>
    rw [show posted = _ from hpost]
    exact ⟨.inl rfl, Nat.zero_le 1, by simp [skippedExit, he]⟩
  | unopened e cause he hc hpost =>
    rw [show posted = _ from hpost]
    exact honest_of_idle rfl he
  | failed e opened f he hc hf hpost =>
    obtain ⟨opened, -, rfl⟩ := map_eq_ok.1 hc
    rw [show posted = _ from hpost]
    exact honest_of_idle rfl he
  | aborted e opened r more he hc hr ha hpost =>
    obtain ⟨opened, hopen, rfl⟩ := map_eq_ok.1 hc
    have hsent : sends posted.state.2 = [(buildRequest e r, .error .clockOverflow)] := by
      rw [show sends posted.state.2 = _ from sends_post n state w he hopen hr]
      exact congrArg (fun answer => [(buildRequest e r, answer)]) ha
    rw [hsent, show posted = _ from hpost]
    exact ⟨.inr (.inr ⟨rfl, _, rfl⟩), Nat.le_refl 1, by simp [Exit.aborted, he]⟩
  | answered e opened r more he hc hr ha hpost =>
    obtain ⟨opened, hopen, rfl⟩ := map_eq_ok.1 hc
    rw [show sends posted.state.2 = _ from sends_post n state w he hopen hr, show posted = _ from hpost]
    refine ⟨(code_afterReport_or _ _).imp id .inl, Nat.le_refl 1, ?_⟩
    rw [code_afterReport, mapError_eq_ok]
    have hmakes := composeRecord_eq_ok.1 hr
    constructor
    · intro hok
      exact .inr ⟨e, r, he, hmakes, congrArg (fun answer => [(buildRequest e r, answer)]) hok⟩
    · rintro (⟨fault, hfault⟩ | ⟨e', r', -, -, hsent⟩)
      · simp [he] at hfault
      · exact (Prod.mk.inj (List.cons.inj hsent).1).2

/-- **The one request is answered well** just when the clock can be set and the sink accepts the record. -/
theorem answer_eq_ok {opened : Session} (hopen : opened.isOpen = true) {e : Endpoint} {r : TestResult} (hr : Makes w a r) :
    (opened.send (buildRequest e r)).answer = .ok () ↔
      opened.canWait = true ∧ ∃ r' d, Makes w a r' ∧
        (opened.send (buildRequest e r)).state.sink.received = opened.sink.received ++ [d] ∧ d.Reports r' ∧
        (opened.sink.take d).1.Accepts := by
  constructor
  · intro hok
    have hw := Session.canWait_of_send hopen hok
    refine ⟨hw, ?_⟩
    rcases Session.send_cases hopen hw (buildRequest e r) with ⟨fault, -, hsend⟩ | ⟨url, d, hb, hsend⟩
    · simp [hsend] at hok
    · rw [hsend] at hok ⊢
      exact ⟨r, d, hr, rfl, Http.reports_of_build hr.wellFormed hb, Http.answered_eq_ok.1 hok⟩
  · rintro ⟨hw, r', d', -, hreceived, -, haccepts⟩
    rcases Session.send_cases hopen hw (buildRequest e r) with ⟨fault, -, hsend⟩ | ⟨url, d, -, hsend⟩
    · simp [hsend] at hreceived
    · rw [hsend] at hreceived ⊢
      have hd : opened.sink.received ++ [d] = opened.sink.received ++ [d'] := hreceived
      simp only [List.append_cancel_left_eq, List.cons.injEq, and_true] at hd
      exact Http.answered_eq_ok.2 (hd ▸ haccepts)

/-- **Posting is honest about the sink that it reaches over HTTP.** -/
theorem honestTo_post (session : Session) :
    let posted := post Session.network session w s a
    HonestTo w a s session posted.exit.code posted.state.sink := by
  intro posted
  cases course_post Session.network session a w s with
  | skipped fault he hpost =>
    rw [show posted = _ from hpost]
    exact ⟨.inl rfl, .inl rfl, by simp [skippedExit, he]⟩
  | unopened e cause he hc hpost =>
    rw [show posted = _ from hpost]
    exact honestTo_of_idle rfl he rfl
  | failed e opened f he hc hf hpost =>
    rw [show posted = _ from hpost]
    exact honestTo_of_idle rfl he (Session.connect_eq_ok hc).2
  | aborted e opened r more he hc hr ha hpost =>
    obtain ⟨hopen, hsink⟩ := Session.connect_eq_ok hc
    have hwaits : ¬ session.Waits s.timeoutSecs := fun h => Session.send_ne_clockOverflow hopen (h opened hc) _ ha
    have honce := Session.sink_send hopen (buildRequest e r)
    rw [hsink] at honce
    rw [show posted = _ from hpost]
    exact ⟨.inr (.inr ⟨rfl, hwaits⟩), honce, by simp [Exit.aborted, he, hwaits]⟩
  | answered e opened r more he hc hr ha hpost =>
    obtain ⟨hopen, hsink⟩ := Session.connect_eq_ok hc
    have hafter : posted.state.sink = (opened.send (buildRequest e r)).state.sink := by
      rw [show posted = _ from hpost]
      rfl
    have hcode : posted.exit.code = 0 ↔ (opened.send (buildRequest e r)).answer = .ok () := by
      rw [show posted = _ from hpost, code_afterReport, mapError_eq_ok]
      rfl
    have hends : posted.exit.code = 0 ∨ posted.exit.code = 1 := by
      rw [show posted = _ from hpost]
      exact code_afterReport_or _ _
    have honce := Session.sink_send hopen (buildRequest e r)
    have hgood := answer_eq_ok hopen (e := e) (composeRecord_eq_ok.1 hr)
    rw [hsink] at honce hgood
    rw [hafter]
    refine ⟨hends.imp id .inl, honce, hcode.trans ?_⟩
    rw [Session.waits_iff hc, hgood, he]
    simp

end

end Command
end SinkReporter
