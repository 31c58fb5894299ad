import SinkReporter.Proofs.Client.Traffic
import SinkReporter.Proofs.Http.Twins
/-!
# Proofs.Client.Confidential — a client that does not tell its token

Two clients of one address that hold different tokens are run side by side.  Over a transport that is blind to the tokens
they are answered alike and log the same events, call by call (`run_twins`); a session over HTTP is such a transport
(`runsAlike_http`).
-/
namespace SinkReporter

open Http (Request Transport Session Delivery IsHeaderText)

theorem twins_buildRequest (address token token' : String) (r : TestResult) :
    (buildRequest ⟨address, token⟩ r).Twins token token' (buildRequest ⟨address, token'⟩ r) where
  url := rfl
  headers := ⟨[("Content-Type", "application/json"), ("Accept", "application/json")], [], rfl, rfl⟩
  body := rfl

/-- **The requests that calls ask for** differ in the token alone. -/
theorem requestsOf_twins (address token token' : String) (calls : List Call) :
    List.Forall₂ (Request.Twins token token') (requestsOf ⟨address, token⟩ calls) (requestsOf ⟨address, token'⟩ calls) := by
  induction calls with
  | nil => exact .nil
  | cons next rest ih =>
    by_cases hclose : next.isClose = true
    · rw [requestsOf_close hclose, requestsOf_close hclose]
      exact .nil
    have hopen : next.isClose = false := by simpa using hclose
    rw [requestsOf_cons hopen, requestsOf_cons hopen, Call.request?, Call.request?]
    cases next.record? with
    | none => exact ih
    | some x =>
      cases x with
      | error cause => exact ih
      | ok r => exact .cons (twins_buildRequest address token token' r) ih

namespace Client

/-- **Clients that differ in the token** of their endpoint, at the same point of their lives. -/
inductive Twins (address token token' : String) : Client → Client → Prop where
  | ready : Twins address token token' (.ready ⟨address, token⟩) (.ready ⟨address, token'⟩)
  | closed : Twins address token token' (.closed ⟨address, token⟩) (.closed ⟨address, token'⟩)

section

variable {σ : Type} {t : Transport σ} {near : σ → σ → Prop} {address token token' : String}
  (hblind : t.Blind (Request.Twins token token') near)
include hblind

theorem postRecord_twins {s s' : σ} (hs : near s s') (r : TestResult) :
    let done := postRecord t (.ready ⟨address, token⟩) s r
    let done' := postRecord t (.ready ⟨address, token'⟩) s' r
    done.answer = done'.answer ∧ done.events = done'.events ∧ Twins address token token' done.client done'.client ∧
      near done.state done'.state := by
  obtain ⟨hanswer, hevents, hstate⟩ := hblind.send hs (twins_buildRequest address token token' r)
  refine ⟨?_, ?_, .ready, hstate⟩
  · exact congrArg (Except.mapError ReportFault.session) hanswer
  · exact congrArg (List.cons (.reporting r.testId r.status.name ("http://" ++ address ++ reportPath))) hevents

/-- **One call** on each of two such clients is answered alike and tells the same, and leaves such clients. -/
theorem call_twins {c c' : Client} (hc : Twins address token token' c c') {s s' : σ} (hs : near s s') (next : Call) :
    (call t c s next).answer = (call t c' s' next).answer ∧ (call t c s next).events = (call t c' s' next).events ∧
      Twins address token token' (call t c s next).client (call t c' s' next).client ∧
      near (call t c s next).state (call t c' s' next).state := by
  cases hc with
  | closed =>
    rw [call_closed, call_closed]
    exact ⟨rfl, rfl, .closed, hs⟩
  | ready =>
    cases next with
    | close => exact ⟨rfl, rfl, .closed, hblind.release hs⟩
    | postRecord r => exact postRecord_twins hblind hs r
    | post o =>
      simp only [call, post]
      cases composeWithText o.testId o.status o.expected o.log o.tags with
      | error cause => exact ⟨rfl, rfl, .ready, hs⟩
      | ok r => exact postRecord_twins hblind hs r

/-- **A whole run** of each is answered alike and tells the same. -/
theorem run_twins (calls : List Call) {c c' : Client} (hc : Twins address token token' c c') {s s' : σ} (hs : near s s') :
    (run t c s calls).1 = (run t c' s' calls).1 ∧
      Twins address token token' (run t c s calls).2.1 (run t c' s' calls).2.1 ∧
      near (run t c s calls).2.2 (run t c' s' calls).2.2 := by
  induction calls generalizing c c' s s' with
  | nil => exact ⟨rfl, hc, hs⟩
  | cons next rest ih =>
    obtain ⟨hanswer, hevents, hclient, hstate⟩ := call_twins hblind hc hs next
    obtain ⟨htold, hfinal, hnear⟩ := ih hclient hstate
    rw [run_cons, run_cons, hanswer, hevents, htold]
    exact ⟨rfl, hfinal, hnear⟩

end

/-- **Two runs over HTTP are alike but for the token**: every call is answered alike and logs the same, and so does letting
the client go; and what the sinks receive after the first deliveries, one by one, differs in the token alone. -/
structure RunsAlike (token token' : String) (before : List Delivery)
    (ran ran' : List (Except ReportFault Unit × List Event) × Client × Session) : Prop where
  told : ran.1 = ran'.1
  gone : (drop Session.transport ran.2.1 ran.2.2).events = (drop Session.transport ran'.2.1 ran'.2.2).events
  received : ∃ ds ds', ran.2.2.sink.received = before ++ ds ∧ ran'.2.2.sink.received = before ++ ds' ∧
    List.Forall₂ (Delivery.Twins token token') ds ds'

theorem runsAlike_http {token token' : String} (ht : IsHeaderText token) (ht' : IsHeaderText token') (address : String)
    (session : Session) (calls : List Call) :
    RunsAlike token token' session.sink.received (run Session.transport (.ready ⟨address, token⟩) session calls)
      (run Session.transport (.ready ⟨address, token'⟩) session calls) := by
  have hblind := Session.blind_transport ht ht' session.sink.received
  have hready : Twins address token token' (.ready ⟨address, token⟩) (.ready ⟨address, token'⟩) := .ready
  obtain ⟨htold, hclient, hsession⟩ := run_twins hblind calls hready (Session.twins_self session)
  obtain ⟨-, hgone, -, -⟩ := call_twins hblind hclient hsession .close
  exact ⟨htold, hgone, hsession.received⟩

end Client
end SinkReporter
