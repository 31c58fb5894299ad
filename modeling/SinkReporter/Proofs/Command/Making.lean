import SinkReporter.Proofs.Command.Tags
/-!
# Proofs.Command.Making — which record the arguments make

A record takes its id, its status and whether it was expected from the arguments, its log from the file that they name and
its tags from both kinds of them.  Composing finds this record if there is one (`composeRecord_eq_ok`).
-/
namespace SinkReporter
namespace Command

/-- **The log of a record is that of a file**, or it has none when no file is named. -/
def LogOf (w : World) (path? : Option Bytes) (r : TestResult) : Prop :=
  match path? with
  | none => r.summaryHtml = none ∧ r.artifacts = none
  | some path => ∃ data log, w.read path = .ok data ∧ log.bytes = .ok data ∧
      r.summaryHtml = some "<text-artifact artifact-id=\"Test Log\" />" ∧ r.artifacts = some [("Test Log", log)]

/-- **The arguments about a result make a record.** -/
structure Makes (w : World) (a : ResultArguments) (r : TestResult) : Prop where
  named : a.testId ≠ ""
  testId : r.testId = a.testId
  metadata : r.testMetadata.name = a.testId
  status : r.status.name = a.status
  expected : r.expected = a.expected
  log : LogOf w a.logFile r
  tags : ∃ first more, GivenJson a.tagsJson first ∧ GivenTexts a.tags more ∧ r.tags = first ++ more

section

variable {w : World} {a : ResultArguments} {r : TestResult}

theorem logOf_iff {path? : Option Bytes} :
    LogOf w path? r ↔ ∃ log, readLog w path? = .ok log ∧ log.map (fun _ => logSummary) = r.summaryHtml ∧
      log.map (fun data => [(logName, Artifact.ofBytes data)]) = r.artifacts := by
  cases path? with
  | none =>
    rw [readLog]
    simp [LogOf, eq_comm]
  | some path =>
    rw [readLog]
    cases hread : w.read path with
    | error cause => simp [LogOf, hread]
    | ok data =>
      simp only [LogOf, hread, Except.ok.injEq, exists_eq_left', Option.map_some, Artifact.bytes_eq_ok]
      simp [logSummary, logName, eq_comm]

theorem collectTags_getD {tags : List Tag} :
    (∃ tags?, collectTags a = .ok tags? ∧ tags?.getD [] = tags) ↔
      ∃ first more, GivenJson a.tagsJson first ∧ GivenTexts a.tags more ∧ tags = first ++ more := by
  by_cases hnone : a.tags = [] ∧ a.tagsJson = none
  · -- no tags are given, and so there are none
    have hcollect := collectTags_eq_none.2 hnone
    have hjson {first : List Tag} : GivenJson none first ↔ first = [] := by simp [GivenJson]
    have htexts {more : List Tag} : GivenTexts [] more ↔ more = [] := List.forall₂_nil_left_iff
    simp only [hcollect, hnone.1, hnone.2, hjson, htexts, Except.ok.injEq, exists_eq_left', Option.getD_none]
    simp [eq_comm]
  · constructor
    · rintro ⟨tags?, hcollect, rfl⟩
      cases tags? with
      | none => exact absurd (collectTags_eq_none.1 hcollect) hnone
      | some tags => exact (collectTags_eq_ok.1 hcollect).2
    · intro hgiven
      exact ⟨some tags, collectTags_eq_ok.2 ⟨hnone, hgiven⟩, rfl⟩

/-- **Composing finds the record that the arguments make.** -/
theorem composeRecord_eq_ok : composeRecord w a = .ok r ↔ Makes w a r := by
  have hcompose : composeRecord w a = .ok r ↔ ∃ log tags?, readLog w a.logFile = .ok log ∧ collectTags a = .ok tags? ∧
      ∃ status : Status, a.status = status.name ∧ a.testId ≠ "" ∧
        TestResult.ofOutcome a.testId status a.expected log tags? = r := by
    unfold composeRecord
    cases readLog w a.logFile with
    | error f => simp
    | ok log =>
      cases collectTags a with
      | error f => simp
      | ok tags? =>
        dsimp only
        rw [mapError_eq_ok, composeWithLogBytes, bind_eq_ok]
        simp [Status.ofText_eq_ok, TestResult.compose_eq_ok]
  rw [hcompose]
  constructor
  · rintro ⟨log, tags?, hlog, htags, status, hstatus, hnamed, rfl⟩
    exact ⟨hnamed, rfl, rfl, hstatus.symm, rfl, logOf_iff.2 ⟨log, hlog, rfl, rfl⟩, collectTags_getD.1 ⟨tags?, htags, rfl⟩⟩
  · intro h
    obtain ⟨log, hlog, hsummary, hartifacts⟩ := logOf_iff.1 h.log
    obtain ⟨tags?, htags, hgiven⟩ := collectTags_getD.2 h.tags
    refine ⟨log, tags?, hlog, htags, r.status, h.status.symm, h.named, ?_⟩
    obtain ⟨testId, status, expected, summary, artifacts, tags, ⟨name⟩⟩ := r
    obtain rfl : testId = a.testId := h.testId
    obtain rfl : name = a.testId := h.metadata
    obtain rfl : expected = a.expected := h.expected
    rw [TestResult.ofOutcome, hsummary, hartifacts, hgiven]

theorem Makes.wellFormed (h : Makes w a r) : r.WellFormed where
  testId := h.testId ▸ h.named
  name := h.metadata.trans h.testId.symm
  log := by
    have hlog := h.log
    cases hpath : a.logFile with
    | none =>
      rw [hpath] at hlog
      exact .inl hlog
    | some path =>
      rw [hpath] at hlog
      obtain ⟨data, log, -, hdata, hsummary, hartifacts⟩ := hlog
      exact .inr ⟨log, data, hsummary, hartifacts, hdata⟩

end

end Command
end SinkReporter
