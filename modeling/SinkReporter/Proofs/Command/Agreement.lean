import SinkReporter.Proofs.Client.Report
import SinkReporter.Proofs.Command.Arguments
import SinkReporter.Proofs.Command.Course
import SinkReporter.Proofs.Command.Making
import SinkReporter.Proofs.Command.Telling
import SinkReporter.Proofs.Http.Session
/-!
# Proofs.Command.Agreement — composing a record and posting it

Both commands make the record of their arguments in the same way.  What composing prints is therefore read back as the one
record that posting reports once its session is open, and where composing fails posting fails with the same words and
reports nothing (`Agreement`).
-/
namespace SinkReporter
namespace Command

open Http (Network Deed Session sends build)

/-! ## Agreement -/

/-- **Composing and posting the same result agree.**  Composing sends nothing.  Where it goes well, what it prints is read
as the record that the arguments make, and posting sends this record to the endpoint, in a batch of one, and nothing else; it
closes after that, unless the clock cannot be set for the answer.  Where it fails it prints nothing, and posting fails with
the same words and has sent nothing.  It fails if one of the stages has a fault, and the first that has one is told. -/
structure Agreement {σ : Type} (w : World) (a : ResultArguments) (e : Endpoint) (state : σ) (composed : Ended σ)
    (posted : Ended (σ × List Deed)) : Prop where
  idle : composed.state = state
  ends : composed.exit.code = 0 ∨ composed.exit.code = 1
  printed : composed.exit.code = 0 → composed.exit.errors = "" ∧ ∃ r v answer,
    Makes w a r ∧ TestResult.form.ofText composed.exit.output = .ok r ∧
    sends posted.state.2 = [(buildRequest e r, answer)] ∧
    (answer ≠ .error .clockOverflow → posted.state.2 = [.sent (buildRequest e r) answer, .released] ∧
      posted.exit = afterReport a.testId (answer.mapError .session)) ∧
    Json.parse (buildRequest e r).body = .ok (.object [("testResults", .array [v])]) ∧ TestResult.form.take v = .ok r
  failed : composed.exit.code = 1 →
    composed.exit.output = "" ∧ posted.exit = composed.exit ∧ posted.state.2 = [.released]
  first : match a.stages.findSome? (a.fault? w) with
    | none => composed.exit.code = 0
    | some f => f.ToldAs composed.exit.errors ∧ composed.exit.code = 1 ∧ posted.exit = composed.exit

theorem toldAs_exit {w : World} {a : ResultArguments} {f : Failure} (h : a.stages.findSome? (a.fault? w) = some f) :
    f.ToldAs f.exit.errors := by
  obtain ⟨stage, -, hstage⟩ := List.exists_of_findSome?_eq_some h
  exact Failure.toldAs_text (ResultArguments.length_causes_of_fault? hstage)

section

variable {w : World} {a : ResultArguments} {settings : Option Bytes} {verbose : Bool} {s : Settings} {e : Endpoint}
  (hs : Settings.gather w (settingsPath (w.value? settingsVariable) ⟨.post a, settings, verbose⟩) = .ok s)
  (he : Context.tryResolve w s.contextVariable = .ok e)
include hs he

theorem agreement_carryOut {σ : Type} (n : Network σ) (state : σ) {opened : σ}
    (hc : n.connect state s.timeoutSecs = .ok opened) :
    Agreement w a e state (carryOut n state w ⟨.compose a, settings, verbose⟩)
      (carryOut n.watched (state, []) w ⟨.post a, settings, verbose⟩) := by
  have hc' : n.watched.connect (state, []) s.timeoutSecs = .ok (opened, []) := map_eq_ok.2 ⟨opened, hc, rfl⟩
  have hstages := errorOf_composeRecord w a
  rw [carryOut_compose n state hs, carryOut_post n.watched (state, []) hs]
  cases hr : composeRecord w a with
  | error f =>
    rw [hr, errorOf_error] at hstages
    rw [post_failed n.watched (state, []) he hc' hr]
    refine ⟨rfl, .inr rfl, fun h => ?_, fun _ => ⟨rfl, rfl, rfl⟩, ?_⟩
    · cases h
    · rw [← hstages]
      exact ⟨toldAs_exit hstages.symm, rfl, rfl⟩
  | ok r =>
    rw [hr, errorOf_ok] at hstages
    have hmakes := composeRecord_eq_ok.1 hr
    have hread := hmakes.wellFormed.readBack
    refine ⟨rfl, .inl rfl, fun _ => ⟨rfl, r, r.toJson, (n.send opened (buildRequest e r)).answer, hmakes, hread.output,
      sends_post n state w he hc hr, ?_, parse_body e r, hread.value⟩, fun h => ?_, ?_⟩
    · intro ha
      obtain ⟨more, hpost⟩ := post_answered n.watched (state, []) he hc' hr ha
      rw [hpost]
      exact ⟨rfl, rfl⟩
    · cases h
    · rw [← hstages]
      rfl

theorem received_post {r : TestResult} (hr : composeRecord w a = .ok r) {session opened : Session}
    (hc : session.connect s.timeoutSecs = .ok opened) (hw : opened.canWait = true) {url : Http.Url} {d : Http.Delivery}
    (hb : build (buildRequest e r) = .ok (url, d)) (hheard : session.sink.Hears url) :
    (carryOut Session.network session w ⟨.post a, settings, verbose⟩).state.sink.received = session.sink.received ++ [d] := by
  obtain ⟨hopen, hsink⟩ := Session.connect_eq_ok hc
  have hsend := Session.send_heard hopen hw hb (hsink ▸ hheard)
  obtain ⟨more, hpost⟩ := post_answered Session.network session he hc hr (Session.send_ne_clockOverflow hopen hw _)
  rw [carryOut_post Session.network session hs, hpost]
  show (opened.send (buildRequest e r)).state.sink.received = _
  rw [hsend, ← hsink]
  rfl

end

end Command
end SinkReporter
