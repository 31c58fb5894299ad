import SinkReporter.Proofs.Context.Tolerance
import SinkReporter.Proofs.Json.Cutting
import SinkReporter.Proofs.Record.RoundTrip
/-!
# Proofs.Record.Truncation — a text that was cut is not taken for another

Of the text of a result nothing can be missing at its end without the reader noticing that it breaks off.  Other texts may
have numbers in them and be malformed when cut, but no text that was accepted can be cut, except for white space at its end,
and be accepted still.
-/
namespace SinkReporter

open Json (Value Form Cut compactChars)
open Context (Accepted)

theorem Json.takesWhole_single {α : Type} {title name : String} {make : String → α} (s : String) :
    (Json.single title name make).form.TakesWhole (.object [(name, .string s)]) := by
  have hfield : (Json.single title name make).field? name = some (.of name .text id (fun _ text => some text) false) := by
    simp [Json.Record.field?, Json.single, Json.Field.of]
  exact Json.lawful_single.takesWhole 0 (List.forall_mem_singleton.2 (.string s))
    (List.forall_mem_singleton.2 ⟨_, hfield, Json.Field.whole_of (Json.takesWhole_text s)⟩)

theorem Artifact.takesWhole_document (artifact : Artifact) : form.TakesWhole artifact.document :=
  Json.takesWhole_single artifact.contents

theorem TestMetadata.takesWhole_document (metadata : TestMetadata) : form.TakesWhole metadata.document :=
  Json.takesWhole_single metadata.name

theorem Tag.takesWhole_document (tag : Tag) : form.TakesWhole tag.document := by
  refine lawful_record.takesWhole 0 ?_ ?_
  · exact List.forall_mem_cons.2 ⟨.string tag.key, List.forall_mem_singleton.2 (.string tag.value)⟩
  · exact List.forall_mem_cons.2 ⟨⟨_, rfl, Json.Field.whole_of (Json.takesWhole_text tag.key)⟩,
      List.forall_mem_singleton.2 ⟨_, rfl, Json.Field.whole_of (Json.takesWhole_text tag.value)⟩⟩

namespace TestResult

theorem takesWhole_artifactsDocument (artifacts : List (String × Artifact)) :
    Artifact.form.map.optional.TakesWhole (artifactsDocument artifacts) := by
  refine Json.Form.TakesWhole.optional ?_ 2 (plain_artifactsDocument artifacts) (fun h => by cases h)
  refine Artifact.lawful_form.takesWhole_map 1 (fun m hm => ?_) fun m hm => ?_
  · obtain ⟨a, -, rfl⟩ := List.mem_map.1 hm
    exact .object (List.forall_mem_singleton.2 (.string _))
  · obtain ⟨a, -, rfl⟩ := List.mem_map.1 hm
    exact a.2.takesWhole_document

theorem takesWhole_tags (tags : List Tag) : Tag.form.list.TakesWhole (.array (tags.map Tag.document)) := by
  refine Tag.lawful_form.takesWhole_list 1 (fun v hv => ?_) fun v hv => ?_
  · obtain ⟨tag, -, rfl⟩ := List.mem_map.1 hv
    exact plain_tag tag
  · obtain ⟨tag, -, rfl⟩ := List.mem_map.1 hv
    exact tag.takesWhole_document

theorem takesWhole_document (r : TestResult) : record.form.TakesWhole r.document := by
  refine lawful_record.takesWhole 2 ?_ ?_
  · have hplain := plain_document r
    cases hplain with
    | object h => exact h
  · refine List.forall_mem_append.2 ⟨List.forall_mem_append.2 ⟨List.forall_mem_append.2 ⟨?_, ?_⟩, ?_⟩, ?_⟩
    · exact List.forall_mem_cons.2 ⟨⟨_, rfl, Json.Field.whole_of (Json.takesWhole_text r.testId)⟩,
        List.forall_mem_cons.2 ⟨⟨_, rfl, Json.Field.whole_of (Json.takesWhole_choice r.status.name)⟩,
          List.forall_mem_singleton.2 ⟨_, rfl, Json.Field.whole_of (Json.takesWhole_boolean r.expected)⟩⟩⟩
    · cases r.summaryHtml with
      | none => exact List.forall_mem_nil _
      | some summary =>
        exact List.forall_mem_singleton.2 ⟨_, rfl, Json.Field.whole_of
          ((Json.takesWhole_text summary).optional 0 (.string summary) fun h => by cases h)⟩
    · cases r.artifacts with
      | none => exact List.forall_mem_nil _
      | some artifacts =>
        exact List.forall_mem_singleton.2 ⟨_, rfl, Json.Field.whole_of (takesWhole_artifactsDocument artifacts)⟩
    · exact List.forall_mem_cons.2 ⟨⟨_, rfl, Json.Field.whole_of (takesWhole_tags r.tags)⟩,
        List.forall_mem_singleton.2 ⟨_, rfl, Json.Field.whole_of r.testMetadata.takesWhole_document⟩⟩

/-- **Wherever the text of a result is cut, it breaks off.** -/
theorem brokenOff_of_cut (r : TestResult) {p q : String} (hp : r.text = p ++ q) (hq : q ≠ "") :
    form.ofText p = .error .brokenOff ∧ form.ofParsedText p = .error .brokenOff := by
  have hcut : Cut p.toList (compactChars r.document) := by
    have htext : compactChars r.document = p.toList ++ q.toList := by
      rw [← String.toList_append, ← hp, text, Value.compact, String.toList_ofList]
    obtain ⟨c, t, hc⟩ := List.exists_cons_of_ne_nil (mt String.toList_eq_nil_iff.1 hq)
    exact ⟨c, t, by rw [htext, hc]⟩
  have hread : form.read p.toList = .error .brokenOff :=
    Json.checked_cut _ ((takesWhole_document r _ (take_document_fields r)).breaks _ hcut)
  have hvalue : Json.readValue Json.maxDepth p.toList = .error .brokenOff := 
    (Json.whole_value (plain_document_max r)).breaks _ hcut
  constructor
  · rw [Form.ofText, hread]
  · rw [Form.ofParsedText, Json.parse, hvalue]

end TestResult

/-! ## Results and context files -/

theorem Context.Accepted.rejected_of_cut {p q : String} (h : Accepted (p ++ q)) (hq : ∃ c ∈ q.toList, Json.isSpace c = false) :
    (∃ e, TestResult.form.ofText p = .error e) ∧ (∃ e, Context.form.ofText p = .error e) ∧ ∃ e, Json.parse p = .error e := by
  have hpasses : ∀ rest, ¬ Json.Passes p.toList rest := by
    intro rest hp
    obtain ⟨c, hc, hspace⟩ := hq
    have hblank := List.all_eq_true.1 (h.holdsContainer.blank_of_passes hp) c hc
    rw [hspace] at hblank
    cases hblank
  exact ⟨TestResult.lawful_form.exists_error hpasses, Context.lawful_form.exists_error hpasses,
    Json.exists_parse_error hpasses⟩

namespace TestResult

/-- **Truncated records are always detected.**  The text of a result is read as long as all of it is there, and breaks off
wherever it is cut, whichever way it is read.  Any text that is accepted as a result or as a context file is rejected when it
is cut before its last character that is not white space, so that none is the start of another, up to white space at the
end. -/
theorem truncation_detected :
    (∀ r : TestResult, r.WellFormed → form.ofText r.text = .ok r ∧ form.ofParsedText r.text = .ok r) ∧
    (∀ (r : TestResult) (p q : String), r.text = p ++ q → q ≠ "" →
      form.ofText p = .error .brokenOff ∧ form.ofParsedText p = .error .brokenOff) ∧
    (∀ p q : String, Accepted (p ++ q) → (∃ c ∈ q.toList, Json.isSpace c = false) →
      (∃ e, form.ofText p = .error e) ∧ (∃ e, Context.form.ofText p = .error e) ∧ ∃ e, Json.parse p = .error e) ∧
    ∀ p blank more : String, blank.toList.all Json.isSpace → Accepted (p ++ blank) → Accepted (p ++ more) →
      more.toList.all Json.isSpace := by
  refine ⟨fun _ h => ⟨h.readBack.text, h.readBack.text_parsed⟩, fun r _ _ => r.brokenOff_of_cut,
    fun _ _ => Accepted.rejected_of_cut, ?_⟩
  intro p blank more hblank h hmore
  exact h.holdsContainer.blank_of_append hblank hmore.holdsContainer

theorem truncation_detected_of_braces :
    Accepted ("\x7b" ++ "\x7d") ∧ ∃ e, Context.form.ofText "\x7b" = .error e := by
  have haccepted : Accepted ("\x7b" ++ "\x7d") := .inr ⟨⟨none⟩, rfl⟩
  exact ⟨haccepted, (truncation_detected.2.2.1 _ _ haccepted ⟨'\x7d', by decide, by decide⟩).2.1⟩

end TestResult
end SinkReporter
