import SinkReporter.Command.Run
import SinkReporter.Proofs.Client.Traffic
import SinkReporter.Proofs.Record.RoundTrip
/-!
# Proofs.Command.Course — what each command comes to

One equation for each way that a command can go, over any network.  Without settings nothing is done.  With them, composing
and telling of the sink each come to their exit.  Posting is skipped, or finds that no session can be opened, or has no
record to report, or sends its one request, which the program may not survive (`course_post`).
-/
namespace SinkReporter
namespace Command

open Http (Transport Network Deed SessionFault sends)

/-! ## Exit codes -/

theorem code_afterReport {testId : String} {answer : Except ReportFault Unit} :
    (afterReport testId answer).code = 0 ↔ answer = .ok () := by
  cases answer <;> simp [afterReport, Exit.fine, Failure.exit]

theorem code_afterReport_or (testId : String) (answer : Except ReportFault Unit) :
    (afterReport testId answer).code = 0 ∨ (afterReport testId answer).code = 1 := by
  cases answer with
  | ok => exact .inl rfl
  | error fault => exact .inr rfl

/-! ## The commands -/

section

variable {σ : Type} (n : Network σ) (state : σ) {w : World} {a : ResultArguments} {settings : Option Bytes}
  {verbose : Bool} {s : Settings}

theorem carryOut_unsettled {i : Invocation} {fault : ConfigFault}
    (hs : Settings.gather w (settingsPath (w.value? settingsVariable) i) = .error fault) :
    carryOut n state w i = ⟨unsettledExit fault, [], state⟩ := by
  rw [carryOut, hs]

theorem carryOut_compose
    (hs : Settings.gather w (settingsPath (w.value? settingsVariable) ⟨.compose a, settings, verbose⟩) = .ok s) :
    carryOut n state w ⟨.compose a, settings, verbose⟩ = ⟨composeExit (composeRecord w a), [], state⟩ := by
  rw [carryOut, hs]

theorem carryOut_context
    (hs : Settings.gather w (settingsPath (w.value? settingsVariable) ⟨.context, settings, verbose⟩) = .ok s) :
    carryOut n state w ⟨.context, settings, verbose⟩ = ⟨contextExit w s, [], state⟩ := by
  rw [carryOut, hs]

theorem carryOut_post
    (hs : Settings.gather w (settingsPath (w.value? settingsVariable) ⟨.post a, settings, verbose⟩) = .ok s) :
    carryOut n state w ⟨.post a, settings, verbose⟩ = post n state w s a := by
  rw [carryOut, hs]

end

/-! ## Reporting -/

section

variable {σ : Type} (t : Transport σ) (e : Endpoint) (state : σ) (a : ResultArguments) (r : TestResult)

theorem report_answered (ha : (t.send state (buildRequest e r)).answer ≠ .error .clockOverflow) :
    ∃ events, report t (.ready e) state a r =
      ⟨afterReport a.testId ((t.send state (buildRequest e r)).answer.mapError .session), events,
        t.release (t.send state (buildRequest e r)).state⟩ := by
  unfold report
  dsimp only
  split
  · rename_i h
    obtain ⟨cause, hcause, hfault⟩ := mapError_eq_error.1 h
    cases hfault
    exact absurd hcause ha
  · exact ⟨_, rfl⟩

theorem report_aborted (ha : (t.send state (buildRequest e r)).answer = .error .clockOverflow) :
    ∃ events, report t (.ready e) state a r =
      ⟨.aborted SessionFault.clockOverflow.message, events, (t.send state (buildRequest e r)).state⟩ := by
  rw [report, Client.postRecord]
  dsimp only
  rw [ha]
  exact ⟨_, rfl⟩

theorem report_watched (deeds : List Deed) :
    let ended := report t.watched (.ready e) (state, deeds) a r
    report t (.ready e) state a r = ⟨ended.exit, ended.events, ended.state.1⟩ := by
  dsimp only
  unfold report
  dsimp only [Client.postRecord, Transport.watched]
  split <;> rfl

end

/-! ## Posting -/

section

variable {σ : Type} (n : Network σ) (state : σ) {w : World} (a : ResultArguments) {s : Settings} {e : Endpoint}

theorem openSettings_unresolved {fault : ConfigFault} (he : Context.tryResolve w s.contextVariable = .error fault)
    {connect : Option UInt64 → Except SessionFault σ} :
    Client.openSettings connect w s = (.ok ⟨.unconfigured, none⟩, [.notResolved fault]) := by
  rw [Client.openSettings, Client.openResolver, Context.resolve, he]
  rfl

theorem post_skipped {fault : ConfigFault} (he : Context.tryResolve w s.contextVariable = .error fault) :
    post n state w s a = ⟨skippedExit a.testId, [.notResolved fault], state⟩ := by
  rw [post, openSettings_unresolved he]
  rfl

section

variable (he : Context.tryResolve w s.contextVariable = .ok e)
include he

theorem openSettings_resolved {connect : Option UInt64 → Except SessionFault σ} :
    Client.openSettings connect w s =
      (((connect s.timeoutSecs).map fun session => ⟨.ready e, some session⟩).mapError .session, [.resolved e.address]) := by
  rw [Client.openSettings, Client.openResolver, Context.resolve, he]
  rfl

/-- **Without a session nothing is sent**, whatever the arguments. -/
theorem post_unopened {cause : SessionFault} (hc : n.connect state s.timeoutSecs = .error cause) :
    post n state w s a = ⟨unopenedExit (.session cause), [.resolved e.address], state⟩ := by
  rw [post, openSettings_resolved he, hc]
  rfl

section

variable {a} {opened : σ} (hc : n.connect state s.timeoutSecs = .ok opened)
include hc

/-- **Without a record nothing is sent.**  The client is let go. -/
theorem post_failed {f : Failure} (hf : composeRecord w a = .error f) :
    post n state w s a = ⟨f.exit, [.resolved e.address, .released e.address], n.release opened⟩ := by
  rw [post, openSettings_resolved he, hc]
  dsimp only [Except.map, Except.mapError, Option.getD_some]
  rw [postWith, hf]
  rfl

variable {r : TestResult} (hr : composeRecord w a = .ok r)
include hr

theorem post_reported : post n state w s a =
    ⟨(report n.toTransport (.ready e) opened a r).exit,
      .resolved e.address :: (report n.toTransport (.ready e) opened a r).events,
      (report n.toTransport (.ready e) opened a r).state⟩ := by
  rw [post, openSettings_resolved he, hc]
  dsimp only [Except.map, Except.mapError, Option.getD_some]
  rw [postWith, hr]
  rfl

/-- **A record is sent in one request**, and the session is released when that has been answered. -/
theorem post_answered (ha : (n.send opened (buildRequest e r)).answer ≠ .error .clockOverflow) :
    ∃ more, post n state w s a =
      ⟨afterReport a.testId ((n.send opened (buildRequest e r)).answer.mapError .session), .resolved e.address :: more,
        n.release (n.send opened (buildRequest e r)).state⟩ := by
  obtain ⟨events, hreport⟩ := report_answered n.toTransport e opened a r ha
  rw [post_reported n state he hc hr, hreport]
  exact ⟨events, rfl⟩

theorem post_aborted (ha : (n.send opened (buildRequest e r)).answer = .error .clockOverflow) :
    ∃ more, post n state w s a =
      ⟨.aborted SessionFault.clockOverflow.message, .resolved e.address :: more,
        (n.send opened (buildRequest e r)).state⟩ := by
  obtain ⟨events, hreport⟩ := report_aborted n.toTransport e opened a r ha
  rw [post_reported n state he hc hr, hreport]
  exact ⟨events, rfl⟩

end

end

/-- **How posting goes.** -/
inductive Course (w : World) (s : Settings) : Prop where
  | skipped (fault : ConfigFault) (he : Context.tryResolve w s.contextVariable = .error fault)
      (hpost : post n state w s a = ⟨skippedExit a.testId, [.notResolved fault], state⟩)
  | unopened (e : Endpoint) (cause : SessionFault) (he : Context.tryResolve w s.contextVariable = .ok e)
      (hc : n.connect state s.timeoutSecs = .error cause)
      (hpost : post n state w s a = ⟨unopenedExit (.session cause), [.resolved e.address], state⟩)
  | failed (e : Endpoint) (opened : σ) (f : Failure) (he : Context.tryResolve w s.contextVariable = .ok e)
      (hc : n.connect state s.timeoutSecs = .ok opened) (hf : composeRecord w a = .error f)
      (hpost : post n state w s a = ⟨f.exit, [.resolved e.address, .released e.address], n.release opened⟩)
  | aborted (e : Endpoint) (opened : σ) (r : TestResult) (more : List Event)
      (he : Context.tryResolve w s.contextVariable = .ok e) (hc : n.connect state s.timeoutSecs = .ok opened)
      (hr : composeRecord w a = .ok r) (ha : (n.send opened (buildRequest e r)).answer = .error .clockOverflow)
      (hpost : post n state w s a =
        ⟨.aborted SessionFault.clockOverflow.message, .resolved e.address :: more,
          (n.send opened (buildRequest e r)).state⟩)
  | answered (e : Endpoint) (opened : σ) (r : TestResult) (more : List Event)
      (he : Context.tryResolve w s.contextVariable = .ok e) (hc : n.connect state s.timeoutSecs = .ok opened)
      (hr : composeRecord w a = .ok r) (ha : (n.send opened (buildRequest e r)).answer ≠ .error .clockOverflow)
      (hpost : post n state w s a =
        ⟨afterReport a.testId ((n.send opened (buildRequest e r)).answer.mapError .session), .resolved e.address :: more,
          n.release (n.send opened (buildRequest e r)).state⟩)

theorem course_post (w : World) (s : Settings) : Course n state a w s := by
  cases he : Context.tryResolve w s.contextVariable with
  | error fault => exact .skipped fault he (post_skipped n state a he)
  | ok e =>
    cases hc : n.connect state s.timeoutSecs with
    | error cause => exact .unopened e cause he hc (post_unopened n state a he hc)
    | ok opened =>
      cases hr : composeRecord w a with
      | error f => exact .failed e opened f he hc hr (post_failed n state he hc hr)
      | ok r =>
        by_cases ha : (n.send opened (buildRequest e r)).answer = .error .clockOverflow
        · obtain ⟨more, hpost⟩ := post_aborted n state he hc hr ha
          exact .aborted e opened r more he hc hr ha hpost
        · obtain ⟨more, hpost⟩ := post_answered n state he hc hr ha
          exact .answered e opened r more he hc hr ha hpost

end

/-! ## Under watch -/

section

variable {σ : Type} (n : Network σ) (state : σ) (deeds : List Deed) (w : World)

theorem post_watched (s : Settings) (a : ResultArguments) :
    let ended := post n.watched (state, deeds) w s a
    post n state w s a = ⟨ended.exit, ended.events, ended.state.1⟩ := by
  dsimp only
  cases he : Context.tryResolve w s.contextVariable with
  | error fault => rw [post_skipped n state a he, post_skipped n.watched (state, deeds) a he]
  | ok e =>
    cases hc : n.connect state s.timeoutSecs with
    | error cause =>
      have hc' : n.watched.connect (state, deeds) s.timeoutSecs = .error cause := map_eq_error.2 hc
      rw [post_unopened n state a he hc, post_unopened n.watched (state, deeds) a he hc']
    | ok opened =>
      have hc' : n.watched.connect (state, deeds) s.timeoutSecs = .ok (opened, deeds) := map_eq_ok.2 ⟨opened, hc, rfl⟩
      cases hr : composeRecord w a with
      | error f =>
        rw [post_failed n state he hc hr, post_failed n.watched (state, deeds) he hc' hr]
        rfl
      | ok r =>
        rw [post_reported n state he hc hr, post_reported n.watched (state, deeds) he hc' hr,
          report_watched n.toTransport e opened a r deeds]
        rfl

/-- **What is sent of a record**, whether the program survives it or not. -/
theorem sends_post {s : Settings} {e : Endpoint} (he : Context.tryResolve w s.contextVariable = .ok e) {opened : σ}
    (hc : n.connect state s.timeoutSecs = .ok opened) {a : ResultArguments} {r : TestResult}
    (hr : composeRecord w a = .ok r) :
    sends (post n.watched (state, []) w s a).state.2 =
      [(buildRequest e r, (n.send opened (buildRequest e r)).answer)] := by
  have hc' : n.watched.connect (state, []) s.timeoutSecs = .ok (opened, []) := map_eq_ok.2 ⟨opened, hc, rfl⟩
  by_cases ha : (n.send opened (buildRequest e r)).answer = .error .clockOverflow
  · obtain ⟨more, hpost⟩ := post_aborted n.watched (state, []) he hc' hr ha
    rw [hpost]
    rfl
  · obtain ⟨more, hpost⟩ := post_answered n.watched (state, []) he hc' hr ha
    rw [hpost]
    rfl

/-- **Watching changes no command.** -/
theorem carryOut_watched (i : Invocation) :
    let ended := carryOut n.watched (state, deeds) w i
    carryOut n state w i = ⟨ended.exit, ended.events, ended.state.1⟩ := by
  dsimp only
  unfold carryOut
  split
  · rfl
  · split
    · exact post_watched n state deeds w _ _
    · rfl
    · rfl

end

end Command
end SinkReporter
