import SinkReporter.Proofs.Record.Grammar
import SinkReporter.Proofs.Record.RoundTrip
/-!
# Proofs.Record.Composition — what composing yields

Composing goes well for a known status and a test's id that is not empty, and the status is looked at first.  A log may be
given as a text or as bytes and a status by its name or as such, with the same answer.  The object that is written of the
record has one member for each thing that was given, and no others (`tells_canonicalMembers`).
-/
namespace SinkReporter
namespace TestResult

/-! ## When it goes well -/

def statusNames : List String := ["PASS", "FAIL", "CRASH", "ABORT", "SKIP"]

theorem mem_statusNames {name : String} : name ∈ statusNames ↔ ∃ status : Status, name = status.name := by
  constructor
  · intro h
    simp only [statusNames, List.mem_cons, List.not_mem_nil, or_false] at h
    rcases h with rfl | rfl | rfl | rfl | rfl
    · exact ⟨.pass, rfl⟩
    · exact ⟨.fail, rfl⟩
    · exact ⟨.crash, rfl⟩
    · exact ⟨.abort, rfl⟩
    · exact ⟨.skip, rfl⟩
  · rintro ⟨status, rfl⟩
    cases status <;> decide

end TestResult

namespace Status

open TestResult (statusNames mem_statusNames)

theorem ofText_eq_ok {name : String} {status : Status} : Status.ofText name = .ok status ↔ name = status.name := by
  rw [← Status.ofName?_eq_some]
  unfold Status.ofText
  cases Status.ofName? name <;> simp

theorem errorOf_ofText (name : String) :
    errorOf (Status.ofText name) = if name ∈ statusNames then none else some (.unknownStatus name) := by
  by_cases h : name ∈ statusNames
  · obtain ⟨status, hstatus⟩ := mem_statusNames.1 h
    rw [if_pos h, ofText_eq_ok.2 hstatus]
    rfl
  · rw [if_neg h]
    unfold Status.ofText
    cases hfound : Status.ofName? name with
    | some status => exact absurd (mem_statusNames.2 ⟨status, Status.ofName?_eq_some.1 hfound⟩) h
    | none => rfl

end Status

namespace TestResult

open Json (Value)

theorem errorOf_checkTestId (testId : String) :
    errorOf (checkTestId testId) = if testId = "" then some .emptyTestId else none := by
  unfold checkTestId
  split <;> rfl

/-- **Why composing fails**: a status that is not known is told of before an id that is empty. -/
theorem errorOf_compose (testId status : String) (expected : Bool) (log : Option Bytes) (tags : Option (List Tag)) :
    errorOf (composeWithLogBytes testId status expected log tags) =
      if status ∉ statusNames then some (.unknownStatus status)
      else if testId = "" then some .emptyTestId
      else none := by
  rw [errorOf_composeWithLogBytes, Status.errorOf_ofText, errorOf_checkTestId]
  by_cases h : status ∈ statusNames <;> simp [h]

/-! ## What is written -/

/-- **The members of an object tell an outcome**, each thing that was given once, and nothing else. -/
structure Tells (members : List (String × Value)) (testId status : String) (expected : Bool) (log : Option Bytes)
    (tags : List Tag) : Prop where
  names : ∀ name, name ∈ members.map (·.1) ↔
    name ∈ ["testId", "status", "expected", "tags", "testMetadata"] ∨
      log.isSome ∧ name ∈ ["summaryHtml", "artifacts"]
  once : (members.map (·.1)).Nodup
  underTestId : members.lookup "testId" = some (.string testId)
  underStatus : members.lookup "status" = some (.string status)
  underExpected : members.lookup "expected" = some (.bool expected)
  underTags : members.lookup "tags" =
    some (.array (tags.map fun tag => .object [("key", .string tag.key), ("value", .string tag.value)]))
  underMetadata : members.lookup "testMetadata" = some (.object [("name", .string testId)])
  underLog : ∀ data, log = some data →
    members.lookup "summaryHtml" = some (.string "<text-artifact artifact-id=\"Test Log\" />") ∧
    ∃ contents, members.lookup "artifacts" = some (.object [("Test Log", .object [("contents", .string contents)])]) ∧
      Base64.decode contents = .ok data

theorem Tells.perm {members members' : List (String × Value)} {testId status : String} {expected : Bool}
    {log : Option Bytes} {tags : List Tag} (h : Tells members testId status expected log tags)
    (hp : members'.Perm members) : Tells members' testId status expected log tags := by
  have hn : (members'.map (·.1)).Nodup := (hp.map _).nodup_iff.2 h.once
  have hlook : ∀ {name v}, members.lookup name = some v → members'.lookup name = some v := fun hv =>
    (Json.lookup_eq_some_iff hn).2 (hp.mem_iff.2 ((Json.lookup_eq_some_iff h.once).1 hv))
  exact {
    names := fun name => (hp.map _).mem_iff.trans (h.names name)
    once := hn
    underTestId := hlook h.underTestId
    underStatus := hlook h.underStatus
    underExpected := hlook h.underExpected
    underTags := hlook h.underTags
    underMetadata := hlook h.underMetadata
    underLog := fun data hdata => by
      obtain ⟨hsummary, contents, hartifacts, hdecode⟩ := h.underLog data hdata
      exact ⟨hlook hsummary, contents, hlook hartifacts, hdecode⟩ }

theorem canonical_tag (tag : Tag) : tag.document.canonical = tag.document := by
  rw [Tag.document, Value.canonical, Json.canonicalMembers_eq_map]
  refine congrArg Value.object (Json.sortMembers_of_ascending (List.pairwise_pair.2 ?_))
  show "key" < "value"
  decide

theorem canonical_tags (tags : List Tag) :
    (Value.array (tags.map Tag.document)).canonical = .array (tags.map Tag.document) := by
  rw [Value.canonical, Json.canonicalItems_eq_map, List.map_map]
  exact congrArg Value.array (List.map_congr_left fun tag _ => canonical_tag tag)

/-- The members of a record's object as they are written, each with what it holds in canonical form. -/
def canonicalMembers (r : TestResult) : List (String × Value) :=
  [("testId", .string r.testId), ("status", .string r.status.name), ("expected", .bool r.expected)]
    ++ optionalMember "summaryHtml" (r.summaryHtml.map .string)
    ++ optionalMember "artifacts" (r.artifacts.map fun artifacts => (artifactsDocument artifacts).canonical)
    ++ [("tags", .array (r.tags.map Tag.document)), ("testMetadata", r.testMetadata.document)]

theorem toJson_eq (r : TestResult) : r.toJson = .object (Json.sortMembers r.canonicalMembers) := by
  have hmap : ∀ name v, (optionalMember name v).map (fun m => (m.1, m.2.canonical)) =
      optionalMember name (v.map Value.canonical) := fun name v => by cases v <;> rfl
  rw [toJson, document, Value.canonical, Json.canonicalMembers_eq_map, List.map_append, List.map_append, List.map_append,
    hmap, hmap, Option.map_map, Option.map_map]
  simp only [List.map_cons, List.map_nil, canonical_tags]
  rfl

/-- **A record's object tells the outcome that the record was composed of.** -/
theorem tells_canonicalMembers (testId : String) (status : Status) (expected : Bool) (log : Option Bytes)
    (tags : Option (List Tag)) :
    Tells (ofOutcome testId status expected log tags).canonicalMembers testId status.name expected log
      (tags.getD []) := by
  have hfew : ["testId", "status", "expected", "tags", "testMetadata"].Nodup := by decide
  have hall : ["testId", "status", "expected", "summaryHtml", "artifacts", "tags", "testMetadata"].Nodup := by decide
  cases log with
  | none => exact {
      names := fun name => by simp [canonicalMembers, ofOutcome, optionalMember]
      once := hfew
      underTestId := rfl
      underStatus := rfl
      underExpected := rfl
      underTags := rfl
      underMetadata := rfl
      underLog := fun data hdata => by cases hdata }
  | some data => exact {
      names := fun name => by
        simp [canonicalMembers, ofOutcome, optionalMember]
        tauto
      once := hall
      underTestId := rfl
      underStatus := rfl
      underExpected := rfl
      underTags := rfl
      underMetadata := rfl
      underLog := fun data' hdata => by
        cases hdata
        exact ⟨rfl, _, rfl, Artifact.bytes_ofBytes data⟩ }

/-- **What composing yields**, whatever it is given.  It goes well for a known status and an id that is not empty.  A text as
the log is as good as its bytes, and a status as good as its name.  The object of the record, which is also what its text is
read as, tells all that was given and nothing else. -/
theorem composition_exact (testId status : String) (expected : Bool) (log : Option Bytes) (tags : Option (List Tag)) :
    ((∃ r, composeWithLogBytes testId status expected log tags = .ok r) ↔ status ∈ statusNames ∧ testId ≠ "") ∧
    errorOf (composeWithLogBytes testId status expected log tags) =
      (if status ∉ statusNames then some (.unknownStatus status)
      else if testId = "" then some .emptyTestId
      else none) ∧
    (∀ text : Option String, composeWithText testId status expected text tags =
      composeWithLogBytes testId status expected (text.map Text.bytes) tags) ∧
    (∀ (text : Option String) (known : Status), Status.ofText status = .ok known →
      composeWithText testId status expected text tags = composeWithStatus testId known expected text tags) ∧
    ∀ r, composeWithLogBytes testId status expected log tags = .ok r →
      ∃ members, r.toJson = .object members ∧ Json.parse r.text = .ok (.object members) ∧
        Tells members testId status expected log (tags.getD []) := by
  refine ⟨?_, errorOf_compose testId status expected log tags, fun _ => rfl, fun text known h => ?_, fun r h => ?_⟩
  · rw [← errorOf_eq_none, errorOf_compose]
    by_cases hstatus : status ∈ statusNames <;> by_cases hid : testId = "" <;> simp [hstatus, hid]
  · rw [composeWithText, h]
    rfl
  · obtain ⟨known, hknown, hcompose⟩ := bind_eq_ok.1 h
    obtain ⟨-, rfl⟩ := compose_eq_ok.1 hcompose
    obtain rfl := Status.ofText_eq_ok.1 hknown
    have htells := tells_canonicalMembers testId known expected log tags
    refine ⟨_, toJson_eq _, ?_, htells.perm (Json.sortMembers_perm htells.once)⟩
    exact Json.parse_eq_ok_iff.2 ⟨_, spelled_text _, toJson_eq _⟩

end TestResult
end SinkReporter
