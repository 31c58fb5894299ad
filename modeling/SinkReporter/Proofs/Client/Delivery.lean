import SinkReporter.Proofs.Client.Traffic
/-!
# Proofs.Client.Delivery — a client delivers each record once

Over every run, whatever the transport answers: the requests that reach it are those of the calls before the first that
closes, in their order and one each, and every call is told how its own send went (`run_delivered`).  The transport is
watched (`Transport.watched`); its own state is arbitrary, so it may decide each answer from all that went before.
-/
namespace SinkReporter

open Http (Request Transport SessionFault sends sends_append)

/-- **A run of calls on a client with an endpoint went well**: what was sent, each request with its answer, and what the
calls were answered. -/
structure Delivered (e : Endpoint) (calls : List Call) (answers : List (Except ReportFault Unit))
    (sent : List (Request × Except SessionFault Unit)) : Prop where
  /-- One answer for each call. -/
  length_eq : answers.length = calls.length
  /-- The requests of the calls before the first that closes, and no others. -/
  requests : sent.map Prod.fst = requestsOf e calls
  /-- A call with a record is answered as its own send was: the one after those of the calls before it. -/
  reported : ∀ before next after r, calls = before ++ next :: after → before.any Call.isClose = false →
    next.record? = some (.ok r) → ∃ reply, sent[(requestsOf e before).length]? = some (buildRequest e r, reply) ∧
      answers[before.length]? = some (reply.mapError .session)
  /-- A call that has no record is told why. -/
  refused : ∀ before next after cause, calls = before ++ next :: after → before.any Call.isClose = false →
    next.record? = some (.error cause) → answers[before.length]? = some (.error (.argument cause))
  /-- Once the client is closed every report is refused, whatever it is to report. -/
  late : ∀ before next after, calls = before ++ next :: after → before.any Call.isClose = true →
    next.isClose = false → answers[before.length]? = some (.error .closed)
  /-- Closing always goes well. -/
  closing : ∀ before next after, calls = before ++ next :: after → next.isClose = true →
    answers[before.length]? = some (.ok ())

namespace Client

variable {σ : Type} (t : Transport σ)

/-- The answer of a call in the middle of a run is the one it gets where the calls before it have led. -/
theorem answers_run_middle (before : List Call) (next : Call) (after : List Call) (c : Client) (s : σ) :
    ((run t c s (before ++ next :: after)).1.map Prod.fst)[before.length]? =
      some (call t (run t c s before).2.1 (run t c s before).2.2 next).answer := by
  rw [run_append, run_cons, List.map_append, List.map_cons, List.getElem?_append_right, List.length_map, length_run,
    Nat.sub_self, List.getElem?_cons_zero]
  exact Nat.le_of_eq (by rw [List.length_map, length_run])

/-- **A call that fails leaves the client as it was**, and the transport too unless the call sent a request. -/
theorem call_error {c : Client} {s : σ} {next : Call} {fault : ReportFault} (h : (call t c s next).answer = .error fault) :
    (call t c s next).client = c ∧ ((∀ cause, fault ≠ .session cause) → (call t c s next).state = s) := by
  cases c with
  | unconfigured => rw [call_unconfigured] at h; cases h
  | closed e => rw [call_closed]; exact ⟨rfl, fun _ => rfl⟩
  | ready e =>
    rcases call_ready t e s next with ⟨-, hc⟩ | ⟨cause, -, hc⟩ | ⟨r, -, events, hc⟩
    · rw [hc] at h; cases h
    · rw [hc]; exact ⟨rfl, fun _ => rfl⟩
    · rw [hc] at h ⊢
      refine ⟨rfl, fun hf => ?_⟩
      dsimp only at h
      cases ha : (t.send s (buildRequest e r)).answer with
      | ok _ => rw [ha] at h; cases h
      | error cause =>
        rw [ha] at h
        cases h
        exact absurd rfl (hf cause)

/-- A report that is made while the client is open stands in the watched transport's list where its turn is, with the
answer that the call is given. -/
theorem sends_run_middle (e : Endpoint) (before : List Call) (next : Call) (after : List Call) (s : σ) (r : TestResult)
    (ho : before.any Call.isClose = false) (hr : next.record? = some (.ok r)) :
    ∃ reply, (sends (run t.watched (.ready e) (s, []) (before ++ next :: after)).2.2.2)[(requestsOf e before).length]? =
        some (buildRequest e r, reply) ∧
      (call t.watched (run t.watched (.ready e) (s, []) before).2.1 (run t.watched (.ready e) (s, []) before).2.2
        next).answer = reply.mapError .session := by
  have hlen : (sends (run t.watched (.ready e) (s, []) before).2.2.2).length = (requestsOf e before).length := by
    rw [← List.length_map (f := Prod.fst), sends_run_ready]
    rfl
  rw [run_append, run_cons, ready_of_open t.watched e before (s, []) ho]
  generalize run t.watched (.ready e) (s, []) before = first at hlen ⊢
  obtain ⟨_, _, s', deeds⟩ := first
  rcases call_ready t.watched e (s', deeds) next with ⟨hr', -⟩ | ⟨cause, hr', -⟩ | ⟨r', hr', events, hc⟩
  · rw [hr'] at hr; cases hr
  · rw [hr'] at hr; cases hr
  · rw [hr'] at hr
    cases hr
    rw [hc, Transport.watched_send]
    refine ⟨_, ?_, rfl⟩
    obtain ⟨more, hm⟩ := deeds_run_prefix t after (.ready e) (t.send s' (buildRequest e r)).state
      (deeds ++ [.sent (buildRequest e r) (t.send s' (buildRequest e r)).answer])
    dsimp only at hlen ⊢
    rw [hm, sends_append, sends_append, List.append_assoc, List.getElem?_append_right (Nat.le_of_eq hlen), hlen,
      Nat.sub_self]
    rfl

/-- **A run of calls on a ready client delivers.** -/
theorem delivered_run_ready (e : Endpoint) (calls : List Call) (s : σ) :
    Delivered e calls ((run t.watched (.ready e) (s, []) calls).1.map Prod.fst)
      (sends (run t.watched (.ready e) (s, []) calls).2.2.2) where
  length_eq := by rw [List.length_map, length_run]
  requests := by rw [sends_run_ready]; rfl
  reported before next after r hs ho hr := by
    subst hs
    obtain ⟨reply, hsent, hanswer⟩ := sends_run_middle t e before next after s r ho hr
    exact ⟨reply, hsent, by rw [answers_run_middle, hanswer]⟩
  refused before next after cause hs ho hr := by
    subst hs
    rw [answers_run_middle, ready_of_open t.watched e before _ ho]
    rcases call_ready t.watched e (run t.watched (.ready e) (s, []) before).2.2 next with
      ⟨hr', -⟩ | ⟨cause', hr', hc⟩ | ⟨r, hr', -⟩
    · rw [hr'] at hr; cases hr
    · rw [hr'] at hr
      cases hr
      rw [hc]
    · rw [hr'] at hr; cases hr
  late before next after hs hclosed hn := by
    subst hs
    rw [answers_run_middle, closed_of_any t.watched e before _ hclosed, call_closed, hn]
    rfl
  closing before next after hs hn := by
    subst hs
    rw [answers_run_middle, client_run_ready]
    cases next with
    | close => cases before.any Call.isClose <;> rfl
    | post o => cases hn
    | postRecord r => cases hn

/-- **Every run delivers, whatever the transport.**  Watching the transport changes nothing.  Without an endpoint each
call does nothing and goes well; with one the run is `Delivered`.  A call that fails leaves the client as it was, so the
calls after it go on from there, and from the very same state of the transport when the call sent nothing. -/
theorem run_delivered (endpoint? : Option Endpoint) (s : σ) (calls : List Call) :
    let ran := run t.watched (ofEndpoint endpoint?) (s, []) calls
    run t (ofEndpoint endpoint?) s calls = (ran.1, ran.2.1, ran.2.2.1) ∧
    (match endpoint? with
      | none => ran.2.2.2 = [] ∧ ran.2.1 = .unconfigured ∧ ran.1.map Prod.fst = calls.map fun _ => .ok ()
      | some e => Delivered e calls (ran.1.map Prod.fst) (sends ran.2.2.2)) ∧
    ∀ before next after, calls = before ++ next :: after →
      let sofar := run t.watched (ofEndpoint endpoint?) (s, []) before
      let done := call t.watched sofar.2.1 sofar.2.2 next
      ∀ fault, done.answer = .error fault →
        done.client = sofar.2.1 ∧ ((∀ cause, fault ≠ .session cause) → done.state = sofar.2.2) ∧
        ran.1 = sofar.1 ++ (.error fault, done.events) :: (run t.watched sofar.2.1 done.state after).1 ∧
        ran.2 = (run t.watched sofar.2.1 done.state after).2 := by
  dsimp only
  refine ⟨run_watched t calls _ s [], ?_, fun before next after hs fault hf => ?_⟩
  · cases endpoint? with
    | none => rw [ofEndpoint, run_unconfigured]; exact ⟨rfl, rfl, by rw [List.map_map]; rfl⟩
    | some e => exact delivered_run_ready t e calls s
  · obtain ⟨hclient, hstate⟩ := call_error t.watched hf
    refine ⟨hclient, hstate, ?_, ?_⟩
    · rw [hs, run_append, run_cons, hclient, hf]
    · rw [hs, run_append, run_cons, hclient]

end Client
end SinkReporter
