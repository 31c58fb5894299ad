import SinkReporter.Record.TestResult
import SinkReporter.Proofs.Base64
/-!
# Proofs.Record.WellFormed — what composing builds and checking asks

Composing writes the invariant of a record and checking tests it.  The two come to the same: a record passes the check just
when it is what composing makes of its own fields, with the bytes of its log (`checked_eq_ok`, `compose_self`).
-/
namespace SinkReporter

theorem Status.ofText_name (status : Status) : Status.ofText status.name = .ok status := by
  cases status <;> rfl

theorem Artifact.bytes_eq_ok {artifact : Artifact} {data : Bytes} :
    artifact.bytes = .ok data ↔ artifact = Artifact.ofBytes data := by
  rw [Artifact.bytes, Base64.decode_eq_ok_iff]
  constructor
  · intro h
    rw [Artifact.ofBytes, ← h]
  · rintro rfl
    rfl

theorem Artifact.bytes_ofBytes (data : Bytes) : (Artifact.ofBytes data).bytes = .ok data := Artifact.bytes_eq_ok.2 rfl

namespace TestResult

/-- A log that can be decoded stands with the summary that embeds it, or neither is there. -/
def LogShape (summary : Option String) (artifacts : Option (List (String × Artifact))) : Prop :=
  (summary = none ∧ artifacts = none) ∨
  ∃ log data, summary = some logSummary ∧ artifacts = some [(logName, log)] ∧ log.bytes = .ok data

/-- **The invariant of a record**: it has an id, which is its name as well, and its log and summary go together. -/
structure WellFormed (r : TestResult) : Prop where
  testId : r.testId ≠ ""
  name : r.testMetadata.name = r.testId
  log : LogShape r.summaryHtml r.artifacts

theorem checkTestId_eq_ok {testId : String} : checkTestId testId = .ok () ↔ testId ≠ "" := by
  unfold checkTestId
  split <;> simp_all

theorem checkLog_eq_ok {summary : Option String} {artifacts : Option (List (String × Artifact))} :
    checkLog summary artifacts = .ok () ↔ LogShape summary artifacts := by
  constructor
  · intro h
    unfold checkLog at h
    split at h
    · exact .inl ⟨rfl, rfl⟩
    · split at h
      · cases h
      rename_i hsummary
      split at h
      · split at h
        · rename_i log hname
          split at h
          · rename_i data hdata
            exact .inr ⟨log, data, by rw [Decidable.not_not.1 hsummary], by rw [hname], hdata⟩
          · cases h
        · cases h
      · cases h
    · cases h
  · rintro (⟨rfl, rfl⟩ | ⟨log, data, rfl, rfl, hdata⟩)
    · rfl
    · rw [checkLog, if_neg (fun h => h rfl), if_pos rfl, hdata]

/-- **A record passes the check just when it is well formed**, and it comes out as it went in. -/
theorem checked_eq_ok {r r' : TestResult} : r.checked = .ok r' ↔ r.WellFormed ∧ r = r' := by
  constructor
  · intro h
    unfold checked at h
    split at h
    · cases h
    rename_i hid
    split at h
    · cases h
    rename_i hname
    obtain ⟨_, hlog, rfl⟩ := map_eq_ok.1 h
    exact ⟨⟨checkTestId_eq_ok.1 hid, Decidable.not_not.1 hname, checkLog_eq_ok.1 hlog⟩, rfl⟩
  · rintro ⟨h, rfl⟩
    rw [checked, checkTestId_eq_ok.2 h.testId]
    dsimp only
    rw [if_neg (fun hne => hne h.name), checkLog_eq_ok.2 h.log]
    rfl

/-! ## Composing -/

inductive Composed : TestResult → Prop where
  | text {testId status expected log tags r} : composeWithText testId status expected log tags = .ok r → Composed r
  | status {testId status expected log tags r} : composeWithStatus testId status expected log tags = .ok r → Composed r
  | bytes {testId status expected log tags r} : composeWithLogBytes testId status expected log tags = .ok r → Composed r

variable {testId : String} {status : Status} {expected : Bool} {log : Option Bytes} {tags : Option (List Tag)}
  {r : TestResult}

def ofOutcome (testId : String) (status : Status) (expected : Bool) (log : Option Bytes) (tags : Option (List Tag)) :
    TestResult where
  testId := testId
  status := status
  expected := expected
  summaryHtml := log.map fun _ => logSummary
  artifacts := log.map fun data => [(logName, Artifact.ofBytes data)]
  tags := tags.getD []
  testMetadata := ⟨testId⟩

theorem compose_eq_ok :
    compose testId status expected log tags = .ok r ↔ testId ≠ "" ∧ ofOutcome testId status expected log tags = r := by
  rw [compose, map_eq_ok]
  constructor
  · rintro ⟨_, hid, rfl⟩
    exact ⟨checkTestId_eq_ok.1 hid, rfl⟩
  · rintro ⟨hid, rfl⟩
    exact ⟨(), checkTestId_eq_ok.2 hid, rfl⟩

/-- The status is looked at before the id, and no fault lies in the log or the tags. -/
theorem errorOf_composeWithLogBytes (testId status : String) (expected : Bool) (log : Option Bytes)
    (tags : Option (List Tag)) :
    errorOf (composeWithLogBytes testId status expected log tags) =
      (errorOf (Status.ofText status)).or (errorOf (checkTestId testId)) :=
  errorOf_bind fun _ _ => errorOf_map _ _

theorem logShape_iff {summary : Option String} {artifacts : Option (List (String × Artifact))} :
    LogShape summary artifacts ↔ ∃ data : Option Bytes, summary = data.map (fun _ => logSummary) ∧
      artifacts = data.map fun data => [(logName, Artifact.ofBytes data)] := by
  constructor
  · rintro (⟨rfl, rfl⟩ | ⟨log, data, rfl, rfl, hdata⟩)
    · exact ⟨none, rfl, rfl⟩
    · -- only one text stands for these bytes
      rw [Artifact.bytes_eq_ok.1 hdata]
      exact ⟨some data, rfl, rfl⟩
  · rintro ⟨data, rfl, rfl⟩
    cases data with
    | none => exact .inl ⟨rfl, rfl⟩
    | some data => exact .inr ⟨_, data, rfl, rfl, Artifact.bytes_ofBytes data⟩

theorem wellFormed_of_compose (h : compose testId status expected log tags = .ok r) : r.WellFormed := by
  obtain ⟨hid, rfl⟩ := compose_eq_ok.1 h
  exact ⟨hid, rfl, logShape_iff.2 ⟨log, rfl, rfl⟩⟩

theorem testLog_of_compose (h : compose testId status expected log tags = .ok r) :
    r.testLog.map Artifact.bytes = log.map .ok := by
  obtain ⟨-, rfl⟩ := compose_eq_ok.1 h
  cases log with
  | none => rfl
  | some data => exact congrArg some (Artifact.bytes_ofBytes data)

theorem composeWithLogBytes_name :
    composeWithLogBytes testId status.name expected log tags = compose testId status expected log tags := by
  rw [composeWithLogBytes, Status.ofText_name]
  rfl

/-- **A well-formed record is what composing makes of its own fields.** -/
theorem WellFormed.compose_self (h : r.WellFormed) :
    ∃ log : Option Bytes, r.testLog.map Artifact.bytes = log.map .ok ∧
      composeWithLogBytes r.testId r.status.name r.expected log (some r.tags) = .ok r := by
  obtain ⟨hid, hname, hlog⟩ := h
  obtain ⟨log, hsummary, hartifacts⟩ := logShape_iff.1 hlog
  have hr : compose r.testId r.status r.expected log (some r.tags) = .ok r := by
    refine compose_eq_ok.2 ⟨hid, ?_⟩
    obtain ⟨testId, status, expected, summaryHtml, artifacts, tags, ⟨name⟩⟩ := r
    dsimp only at hname hsummary hartifacts
    subst hname hsummary hartifacts
    rfl
  exact ⟨log, testLog_of_compose hr, composeWithLogBytes_name.trans hr⟩

theorem composed_iff : r.Composed ↔ r.WellFormed := by
  constructor
  · intro h
    cases h with
    | text h =>
      obtain ⟨status, -, h⟩ := bind_eq_ok.1 h
      exact wellFormed_of_compose h
    | status h => exact wellFormed_of_compose h
    | bytes h =>
      obtain ⟨status, -, h⟩ := bind_eq_ok.1 h
      exact wellFormed_of_compose h
  · intro h
    obtain ⟨log, -, h⟩ := h.compose_self
    exact .bytes h

end TestResult
end SinkReporter
