import SinkReporter.Proofs.Json.Written
import SinkReporter.Proofs.Record.Reading
import SinkReporter.Proofs.Record.WellFormed
/-!
# Proofs.Record.Writing — what is written of a record is read back
-/
namespace SinkReporter

open Json (Value Plain)

theorem Tag.take_document (tag : Tag) : Tag.form.take tag.document = .ok tag := rfl

theorem Artifact.take_document (artifact : Artifact) : Artifact.form.take artifact.document = .ok artifact := rfl

theorem TestMetadata.take_document (metadata : TestMetadata) :
    TestMetadata.form.take metadata.document = .ok metadata := rfl

theorem Status.take_name (status : Status) : Status.form.take (.string status.name) = .ok status := by
  cases status <;> rfl

namespace TestResult

theorem take_artifactsDocument (artifacts : List (String × Artifact)) :
    Artifact.form.map.take (artifactsDocument artifacts) = .ok (Json.sortMembers artifacts) :=
  Json.map_take.2 ⟨artifacts, mapM_map_eq_ok (g := fun a => (a.1, a.2.document)) (fun _ => rfl) artifacts, rfl⟩

/-! ## The members of a record -/

section

variable {d : Draft}

theorem take_outcome (testId : String) (status : Status) (expected : Bool) :
    [("testId", Value.string testId), ("status", .string status.name), ("expected", .bool expected)].foldlM
      record.takeMember {} = .ok { testId := some testId, status := some status, expected := some expected } :=
  foldlM_cons_eq_ok.2 ⟨_, Json.Record.takeMember_put rfl rfl rfl,
    foldlM_cons_eq_ok.2 ⟨_, Json.Record.takeMember_put rfl rfl (Status.take_name status),
      foldlM_cons_eq_ok.2 ⟨_, Json.Record.takeMember_put rfl rfl rfl, rfl⟩⟩⟩

theorem take_summary (hd : d.summaryHtml = none) (summary : Option String) :
    (optionalMember "summaryHtml" (summary.map .string)).foldlM record.takeMember d =
      .ok { d with summaryHtml := summary.map some } := by
  cases summary with
  | none => exact congrArg Except.ok (by rw [Option.map_none, ← hd])
  | some summary => exact foldlM_cons_eq_ok.2 ⟨_, Json.Record.takeMember_put rfl hd rfl, rfl⟩

theorem take_artifacts (hd : d.artifacts = none) (artifacts : Option (List (String × Artifact))) :
    (optionalMember "artifacts" (artifacts.map artifactsDocument)).foldlM record.takeMember d =
      .ok { d with artifacts := artifacts.map fun a => some (Json.sortMembers a) } := by
  cases artifacts with
  | none => exact congrArg Except.ok (by rw [Option.map_none, ← hd])
  | some a =>
    refine foldlM_cons_eq_ok.2 ⟨_, Json.Record.takeMember_put rfl hd (x := some (Json.sortMembers a)) ?_, rfl⟩
    exact map_eq_ok.2 ⟨_, take_artifactsDocument a, rfl⟩

theorem take_rest (htags : d.tags = none) (hmetadata : d.testMetadata = none) (tags : List Tag)
    (metadata : TestMetadata) :
    [("tags", Value.array (tags.map Tag.document)), ("testMetadata", metadata.document)].foldlM record.takeMember d =
      .ok { d with tags := some tags, testMetadata := some metadata } :=
  foldlM_cons_eq_ok.2 ⟨_, Json.Record.takeMember_put rfl htags (mapM_map_eq_ok Tag.take_document tags),
    foldlM_cons_eq_ok.2 ⟨_, Json.Record.takeMember_put rfl hmetadata metadata.take_document, rfl⟩⟩

end

/-- **The fields of a record are taken from its document**, its artifacts by name. -/
theorem take_document_fields (r : TestResult) :
    record.form.take r.document = .ok { r with artifacts := r.artifacts.map Json.sortMembers } := by
  refine Json.Record.take_object.2 ⟨_, foldlM_append_eq_ok.2 ⟨_, foldlM_append_eq_ok.2 ⟨_, foldlM_append_eq_ok.2
    ⟨_, take_outcome r.testId r.status r.expected, take_summary rfl r.summaryHtml⟩, take_artifacts rfl r.artifacts⟩,
    take_rest rfl rfl r.tags r.testMetadata⟩, ?_⟩
  obtain ⟨testId, status, expected, summaryHtml, artifacts, tags, metadata⟩ := r
  cases summaryHtml <;> cases artifacts <;> rfl

theorem WellFormed.sortMembers_artifacts {r : TestResult} (h : r.WellFormed) :
    r.artifacts.map Json.sortMembers = r.artifacts := by
  rcases h.log with ⟨-, hlog⟩ | ⟨log, data, -, hlog, -⟩
  · rw [hlog]
    rfl
  · rw [hlog, Option.map_some, Json.sortMembers_of_ascending (List.pairwise_singleton _ _)]

theorem take_document {r : TestResult} (h : r.WellFormed) : form.take r.document = .ok r := by
  have htake := take_document_fields r
  rw [h.sortMembers_artifacts] at htake
  exact Json.checked_take.2 ⟨r, htake, mapError_eq_ok.2 (checked_eq_ok.2 ⟨h, rfl⟩)⟩

/-! ## The text of a record -/

theorem plain_tag (tag : Tag) : Plain 1 tag.document :=
  .object (List.forall_mem_cons.2 ⟨.string _, List.forall_mem_singleton.2 (.string _)⟩)

theorem plain_artifactsDocument (artifacts : List (String × Artifact)) : Plain 2 (artifactsDocument artifacts) := by
  refine .object fun m hm => ?_
  obtain ⟨a, -, rfl⟩ := List.mem_map.1 hm
  exact .object (List.forall_mem_singleton.2 (.string _))

theorem plain_optionalMember {depth : Nat} {name : String} {v : Option Value} (h : ∀ w, v = some w → Plain depth w) :
    ∀ m ∈ optionalMember name v, Plain depth m.2 := by
  cases v with
  | none => exact fun m hm => by cases hm
  | some w => exact List.forall_mem_singleton.2 (h w rfl)

theorem plain_document (r : TestResult) : Plain 3 r.document := by
  refine .object (List.forall_mem_append.2 ⟨List.forall_mem_append.2 ⟨List.forall_mem_append.2 ⟨?_, ?_⟩, ?_⟩, ?_⟩)
  · exact List.forall_mem_cons.2 ⟨.string _, List.forall_mem_cons.2 ⟨.string _, List.forall_mem_singleton.2 (.bool _)⟩⟩
  · refine plain_optionalMember fun w hw => ?_
    obtain ⟨x, -, rfl⟩ := Option.map_eq_some_iff.1 hw
    exact .string x
  · refine plain_optionalMember fun w hw => ?_
    obtain ⟨a, -, rfl⟩ := Option.map_eq_some_iff.1 hw
    exact plain_artifactsDocument a
  · refine List.forall_mem_cons.2 ⟨.array fun v hv => ?_, List.forall_mem_singleton.2 ?_⟩
    · obtain ⟨tag, -, rfl⟩ := List.mem_map.1 hv
      exact plain_tag tag
    · exact .object (List.forall_mem_singleton.2 (.string _))

theorem plain_document_max (r : TestResult) : Plain Json.maxDepth r.document := (plain_document r).mono (by decide)

end TestResult
end SinkReporter
