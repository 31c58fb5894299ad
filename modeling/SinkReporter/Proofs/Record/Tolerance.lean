import SinkReporter.Proofs.Json.Tolerance
import SinkReporter.Proofs.Record.Reading
/-!
# Proofs.Record.Tolerance — which changes of a record's text do not count

Records stand in a result at the top, in the list of tags, among the artifacts and as the metadata.  Neither the order of
their members nor members that they do not know make a difference (`TestResult.blind`).  The artifacts themselves, by their
names, and a status that is written as an object are no such records.
-/
namespace SinkReporter

open Json (Blind Shape)

theorem Json.tolerant_single {α : Type} {title name : String} {make : String → α} :
    (Json.single title name make).Tolerant [(name, .plain)] where
  toLawful := Json.lawful_single
  fits := .cons ⟨rfl, Json.Field.blind_of Json.blind_text⟩ .nil
  swaps := List.pairwise_singleton _ _
  passes := rfl

def Artifact.shape : Shape := .record [("contents", .plain)]

theorem Artifact.blind : Blind shape form.read := Json.tolerant_single.blind

def TestMetadata.shape : Shape := .record [("name", .plain)]

theorem TestMetadata.blind : Blind shape form.read := Json.tolerant_single.blind

def Tag.shape : Shape := .record [("key", .plain), ("value", .plain)]

theorem Tag.tolerant_record : record.Tolerant [("key", .plain), ("value", .plain)] where
  toLawful := lawful_record
  fits := .cons ⟨rfl, Json.Field.blind_of Json.blind_text⟩ (.cons ⟨rfl, Json.Field.blind_of Json.blind_text⟩ .nil)
  swaps := List.pairwise_pair.2 ⟨Json.Field.swaps_of fun _ _ _ => rfl, Json.Field.swaps_of fun _ _ _ => rfl⟩
  passes := rfl

theorem Tag.blind : Blind shape form.read := Tag.tolerant_record.blind

theorem Status.blind : Blind .plain form.read := Json.blind_choice

namespace TestResult

def shapes : List (String × Shape) :=
  [("testId", .plain), ("status", .plain), ("expected", .plain), ("summaryHtml", .plain), ("artifacts", .map Artifact.shape),
    ("tags", .list Tag.shape), ("testMetadata", TestMetadata.shape)]

def shape : Shape := .record shapes

theorem tolerant_record : record.Tolerant shapes where
  toLawful := lawful_record
  fits :=
    .cons ⟨rfl, Json.Field.blind_of Json.blind_text⟩ <|
    .cons ⟨rfl, Json.Field.blind_of Status.blind⟩ <|
    .cons ⟨rfl, Json.Field.blind_of Json.blind_boolean⟩ <|
    .cons ⟨rfl, Json.Field.blind_of Json.blind_text.optional⟩ <|
    .cons ⟨rfl, Json.Field.blind_of Artifact.blind.mapOf.optional⟩ <|
    .cons ⟨rfl, Json.Field.blind_of Tag.blind.list⟩ <|
    .cons ⟨rfl, Json.Field.blind_of TestMetadata.blind⟩ .nil
  swaps := by
    simp only [record, List.pairwise_cons, List.forall_mem_cons]
    and_intros
    all_goals first
      | exact Json.Field.swaps_of fun _ _ _ => rfl
      | exact List.Pairwise.nil
      | exact fun _ h => by cases h
  passes := rfl

/-- **Changes of its text do not make another result.** -/
theorem blind : Blind shape form.read := tolerant_record.blind.checked _

theorem holdsContainer {text : String} {r : TestResult} (h : form.ofText text = .ok r) : Json.HoldsContainer text :=
  lawful_form.holdsContainer (record.ofContainer.checked _) h

end TestResult
end SinkReporter
