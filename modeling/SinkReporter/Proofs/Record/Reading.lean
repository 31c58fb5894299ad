import SinkReporter.Record.TestResult
import SinkReporter.Proofs.Json.Fields
/-!
# Proofs.Record.Reading — a result is read alike either way
-/
namespace SinkReporter

theorem Json.lawful_single {α : Type} {title name : String} {make : String → α} :
    (Json.single title name make).Lawful where
  field := List.forall_mem_singleton.2 (Json.Field.lawful_of Json.lawful_text fun _ _ => rfl)
  pairwise := List.pairwise_singleton _ _

theorem Artifact.lawful_form : Artifact.form.Lawful := Json.lawful_single.form

theorem TestMetadata.lawful_form : TestMetadata.form.Lawful := Json.lawful_single.form

theorem Status.lawful_form : Status.form.Lawful := Json.lawful_choice

namespace Tag

theorem lawful_record : record.Lawful where
  field := by
    simp only [record, List.forall_mem_cons]
    and_intros
    · exact Json.Field.lawful_of Json.lawful_text fun _ _ => rfl
    · exact Json.Field.lawful_of Json.lawful_text fun _ _ => rfl
    · exact fun _ h => by cases h
  pairwise := by
    refine List.pairwise_pair.2 ⟨?_, ?_⟩
    · exact Json.Field.apart_of (fun _ _ => rfl) fun _ _ _ => rfl
    · exact Json.Field.apart_of (fun _ _ => rfl) fun _ _ _ => rfl

theorem lawful_form : form.Lawful := lawful_record.form

end Tag

namespace TestResult

theorem lawful_record : record.Lawful where
  field := by
    simp only [record, List.forall_mem_cons]
    and_intros
    · exact Json.Field.lawful_of Json.lawful_text fun _ _ => rfl
    · exact Json.Field.lawful_of Status.lawful_form fun _ _ => rfl
    · exact Json.Field.lawful_of Json.lawful_boolean fun _ _ => rfl
    · exact Json.Field.lawful_of Json.lawful_text.optional fun _ _ => rfl
    · exact Json.Field.lawful_of Artifact.lawful_form.map.optional fun _ _ => rfl
    · exact Json.Field.lawful_of Tag.lawful_form.list fun _ _ => rfl
    · exact Json.Field.lawful_of TestMetadata.lawful_form fun _ _ => rfl
    · exact fun _ h => by cases h
  pairwise := by
    simp only [record, List.pairwise_cons, List.forall_mem_cons]
    and_intros
    all_goals first
      | exact Json.Field.apart_of (fun _ _ => rfl) fun _ _ _ => rfl
      | exact List.Pairwise.nil
      | exact fun _ h => by cases h

theorem lawful_form : form.Lawful := lawful_record.form.checked _

/-- A text that gives one of the fields twice is no record, whatever the two of them hold. -/
theorem count_of_ofText {t : String} {r : TestResult} (h : form.ofText t = .ok r) {name : String}
    (hname : name ∈ record.names) : (Json.topNames t.toList).count name ≤ 1 := by
  obtain ⟨rest, hread, -⟩ := Json.ofText_eq_ok.1 h
  obtain ⟨a, ha, -⟩ := Json.checked_read.1 hread
  exact lawful_record.count_topNames ha hname

/-- **The two ways of reading a result agree.** -/
theorem readings_agree (t : String) :
    (∀ r r', form.ofText t = .ok r → form.ofParsedText t = .ok r' → r = r') ∧
    (Json.NoRepeats t → ((∃ r, form.ofText t = .ok r) ↔ ∃ r, form.ofParsedText t = .ok r)) ∧
    (∀ name ∈ record.names, 2 ≤ (Json.topNames t.toList).count name → ∀ r, form.ofText t ≠ .ok r) := by
  refine ⟨fun r r' => lawful_form.agree, lawful_form.exists_iff, ?_⟩
  intro name hname htwice r hr
  have := count_of_ofText hr hname
  omega

end TestResult
end SinkReporter
