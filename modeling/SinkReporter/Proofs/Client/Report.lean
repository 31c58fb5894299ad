import SinkReporter.Proofs.Client.Traffic
import SinkReporter.Proofs.Record.RoundTrip
/-!
# Proofs.Client.Report — what a request carries

The body of a request spells an object whose one member holds the record and nothing else, whatever texts the record is
made of (`parse_body`).  A request therefore tells the address, the token and the record it was built from
(`buildRequest_inj`), and whatever a run hands to its transport can be read back as a whole record
(`exists_record_of_mem_sends`).
-/
namespace SinkReporter

open Json (Value Plain)
open Http (Request Transport sends)

/-! ## The body -/

theorem plain_reportDocument (r : TestResult) : Plain Json.maxDepth (reportDocument r) := by
  have hreport : Plain 5 (reportDocument r) :=
    .object (List.forall_mem_singleton.2 (.array (List.forall_mem_singleton.2 (r.plain_document.mono (by decide)))))
  exact hreport.mono (by decide)

/-- **A report with the value of a record in order.** -/
def reportValue (v : Value) : Value := .object [("testResults", .array [v])]

theorem canonical_reportDocument (r : TestResult) : (reportDocument r).canonical = reportValue r.toJson := by
  rw [reportDocument, Value.canonical, Json.canonicalMembers_eq_map, List.map_singleton, Value.canonical,
    Json.canonicalItems_eq_map, List.map_singleton]
  rfl

/-- **The body of a request is read as the one record in its frame.** -/
theorem parse_body (e : Endpoint) (r : TestResult) : Json.parse (buildRequest e r).body = .ok (reportValue r.toJson) :=
  Json.parse_eq_ok_iff.2 ⟨reportDocument r, Json.spelled_compact (plain_reportDocument r), canonical_reportDocument r⟩

theorem TestResult.parse_text (r : TestResult) : Json.parse r.text = .ok r.toJson :=
  Json.parse_eq_ok_iff.2 ⟨r.document, r.spelled_text, rfl⟩

theorem TestResult.WellFormed.toJson_inj {r r' : TestResult} (h : r.WellFormed) (h' : r'.WellFormed)
    (he : r.toJson = r'.toJson) : r = r' := by
  have hr := h.readBack.value
  rw [he, h'.readBack.value] at hr
  exact (Except.ok.inj hr).symm

/-! ## The whole request -/

/-- **A request tells where it goes, with which token and what it reports.** -/
theorem buildRequest_inj {e e' : Endpoint} {r r' : TestResult} (h : r.WellFormed) (h' : r'.WellFormed)
    (he : buildRequest e r = buildRequest e' r') : e = e' ∧ r = r' := by
  have hurl : "http://" ++ e.address ++ reportPath = "http://" ++ e'.address ++ reportPath := congrArg Request.url he
  have hheaders : (buildRequest e r).headers = (buildRequest e' r').headers := congrArg Request.headers he
  have hbody : Json.parse (buildRequest e r).body = Json.parse (buildRequest e' r').body := by rw [he]
  constructor
  · have haddress : e.address = e'.address := (String.append_right_inj _).1 ((String.append_left_inj _).1 hurl)
    have htoken : e.authToken = e'.authToken := by
      simp only [buildRequest, List.cons.injEq, Prod.mk.injEq] at hheaders
      exact (String.append_right_inj _).1 hheaders.2.2.1.2
    obtain ⟨address, token⟩ := e
    obtain ⟨address', token'⟩ := e'
    exact (Endpoint.mk.injEq ..).mpr ⟨haddress, htoken⟩
  · rw [parse_body, parse_body] at hbody
    simp only [Except.ok.injEq, reportValue, Value.object.injEq, List.cons.injEq, Prod.mk.injEq, Value.array.injEq,
      and_true, true_and] at hbody
    exact h.toJson_inj h' hbody

/-! ## Runs -/

theorem Call.wellFormed_of_record? {call : Call} {r : TestResult} (h : ∀ r, call = .postRecord r → r.WellFormed)
    (hr : call.record? = some (.ok r)) : r.WellFormed := by
  cases call with
  | close => cases hr
  | postRecord r' => cases hr; exact h r rfl
  | post o => exact TestResult.composed_iff.1 (.text (Option.some.inj hr))

theorem exists_record_of_mem_requestsOf {e : Endpoint} {calls : List Call} {request : Request}
    (h : ∀ r, Call.postRecord r ∈ calls → r.WellFormed) (hm : request ∈ requestsOf e calls) :
    ∃ r : TestResult, r.WellFormed ∧ request = buildRequest e r := by
  obtain ⟨call, hcall, hrequest⟩ := List.mem_filterMap.1 hm
  unfold Call.request? at hrequest
  split at hrequest
  · rename_i r hr
    have hmem : call ∈ calls := (List.takeWhile_prefix _).subset hcall
    exact ⟨r, Call.wellFormed_of_record? (fun r hc => h r (hc ▸ hmem)) hr, (Option.some.inj hrequest).symm⟩
  · cases hrequest

/-- **Whatever a run hands to its transport reports a whole record** to the client's endpoint. -/
theorem exists_record_of_mem_sends {σ : Type} (t : Transport σ) (endpoint? : Option Endpoint) (s : σ)
    (calls : List Call) (h : ∀ r, Call.postRecord r ∈ calls → r.WellFormed) :
    ∀ sent ∈ sends (Client.run t.watched (.ofEndpoint endpoint?) (s, []) calls).2.2.2,
      ∃ e, endpoint? = some e ∧ ∃ r : TestResult, r.WellFormed ∧ sent.1 = buildRequest e r := by
  intro sent hsent
  cases endpoint? with
  | none =>
    rw [Client.ofEndpoint, Client.run_unconfigured] at hsent
    cases hsent
  | some e =>
    refine ⟨e, rfl, exists_record_of_mem_requestsOf h ?_⟩
    have hmem := List.mem_map_of_mem (f := Prod.fst) hsent
    rwa [Client.ofEndpoint, Client.sends_run_ready] at hmem

/-- **Requests are faithful.**  For every endpoint and record the body is the record in its frame and nothing more, and
the record is read back from it; the text of a record and its value are the same data.  No two different triples of
address, token and record make the same request, and every body that any run hands to any transport is that of a whole
record. -/
theorem requests_faithful :
    (∀ (e : Endpoint) (r : TestResult), r.Composed ∨ r.Decoded →
      Json.parse (buildRequest e r).body = .ok (.object [("testResults", .array [r.toJson])]) ∧
      TestResult.form.take r.toJson = .ok r ∧ Json.parse r.text = .ok r.toJson) ∧
    (∀ (e e' : Endpoint) (r r' : TestResult), r.Composed ∨ r.Decoded → r'.Composed ∨ r'.Decoded →
      (e.address, e.authToken, r) ≠ (e'.address, e'.authToken, r') → buildRequest e r ≠ buildRequest e' r') ∧
    (∀ {σ : Type} (t : Transport σ) (endpoint? : Option Endpoint) (s : σ) (calls : List Call),
      (∀ r, Call.postRecord r ∈ calls → r.Composed ∨ r.Decoded) →
      ∀ sent ∈ sends (Client.run t.watched (.ofEndpoint endpoint?) (s, []) calls).2.2.2,
        ∃ r : TestResult, (r.Composed ∨ r.Decoded) ∧ (∃ e, endpoint? = some e ∧ sent.1 = buildRequest e r) ∧
          ∃ v, Json.parse sent.1.body = .ok (.object [("testResults", .array [v])]) ∧
            TestResult.form.take v = .ok r) := by
  have wellFormed {r : TestResult} (h : r.Composed ∨ r.Decoded) : r.WellFormed :=
    h.elim TestResult.composed_iff.1 TestResult.Decoded.wellFormed
  refine ⟨fun e r h => ⟨parse_body e r, (wellFormed h).readBack.value, r.parse_text⟩, ?_, ?_⟩
  · intro e e' r r' h h' hne he
    obtain ⟨rfl, rfl⟩ := buildRequest_inj (wellFormed h) (wellFormed h') he
    exact hne rfl
  · intro σ t endpoint? s calls h sent hsent
    obtain ⟨e, he, r, hr, hrequest⟩ :=
      exists_record_of_mem_sends t endpoint? s calls (fun r hr => wellFormed (h r hr)) sent hsent
    refine ⟨r, .inl (TestResult.composed_iff.2 hr), ⟨e, he, hrequest⟩, r.toJson, ?_, hr.readBack.value⟩
    rw [hrequest]
    exact parse_body e r

end SinkReporter
