import SinkReporter.Command.Run
import SinkReporter.Proofs.Record.Writing
/-!
# Proofs.Record.RoundTrip — composing, writing and reading

Whatever is composed is read back from each of its texts.  The other way about, whatever is read can be composed, so that
the two yield the same records.
-/
namespace SinkReporter
namespace TestResult

open Json (Value Spelled)

/-! ## Reading what was written -/

theorem spelled_text (r : TestResult) : Spelled r.text r.document := Json.spelled_compact (plain_document_max r)

theorem spelled_output (r : TestResult) : Spelled (Command.composeExit (.ok r)).output r.document :=
  Json.spelled_pretty (plain_document_max r)

/-- **A record is read back** from its text and from what the command that composes it prints, either way, and from its
value. -/
structure ReadBack (r : TestResult) : Prop where
  text : form.ofText r.text = .ok r
  text_parsed : form.ofParsedText r.text = .ok r
  output : form.ofText (Command.composeExit (.ok r)).output = .ok r
  output_parsed : form.ofParsedText (Command.composeExit (.ok r)).output = .ok r
  value : form.take r.toJson = .ok r

theorem WellFormed.readBack {r : TestResult} (h : r.WellFormed) : r.ReadBack := by
  have htake := take_document h
  obtain ⟨htext, hparsed⟩ := lawful_form.read_spelled (spelled_text r) htake
  obtain ⟨houtput, hoparsed⟩ := lawful_form.read_spelled (spelled_output r) htake
  exact ⟨htext, hparsed, houtput, hoparsed, lawful_form.steady htake⟩

/-! ## Composing what was read -/

inductive Decoded : TestResult → Prop where
  | text {t r} : form.ofText t = .ok r → Decoded r
  | parsed {t r} : form.ofParsedText t = .ok r → Decoded r
  | value {v r} : form.take v = .ok r → Decoded r

theorem wellFormed_of_take {v : Value} {r : TestResult} (h : form.take v = .ok r) : r.WellFormed := by
  obtain ⟨a, -, ha⟩ := Json.checked_take.1 h
  obtain ⟨hwf, rfl⟩ := checked_eq_ok.1 (mapError_eq_ok.1 ha)
  exact hwf

theorem wellFormed_of_ofText {t : String} {r : TestResult} (h : form.ofText t = .ok r) : r.WellFormed := by
  obtain ⟨rest, hread, -⟩ := Json.ofText_eq_ok.1 h
  obtain ⟨a, -, ha⟩ := Json.checked_read.1 hread
  obtain ⟨hwf, rfl⟩ := checked_eq_ok.1 (mapError_eq_ok.1 ha)
  exact hwf

theorem Decoded.wellFormed {r : TestResult} (h : r.Decoded) : r.WellFormed := by
  cases h with
  | text h => exact wellFormed_of_ofText h
  | parsed h =>
    obtain ⟨tree, -, h⟩ := Json.ofParsedText_eq_ok.1 h
    exact wellFormed_of_take h
  | value h => exact wellFormed_of_take h

/-- **Every record is read back**, and the log of the one that is read decodes to the bytes it was composed with. -/
theorem round_trip :
    (∀ r : TestResult, r.Composed ∨ r.Decoded → r.ReadBack) ∧
    ∀ (testId : String) (status : Status) (expected : Bool) (log : Option Bytes) (tags : Option (List Tag)),
      testId ≠ "" → ∃ r, composeWithLogBytes testId status.name expected log tags = .ok r ∧
        ∀ r', form.ofText r.text = .ok r' ∨ form.ofText (Command.composeExit (.ok r)).output = .ok r' →
          r'.testLog.map Artifact.bytes = log.map .ok := by
  constructor
  · rintro r (h | h)
    · exact (composed_iff.1 h).readBack
    · exact h.wellFormed.readBack
  intro testId status expected log tags hid
  have hr : compose testId status expected log tags = .ok (ofOutcome testId status expected log tags) :=
    compose_eq_ok.2 ⟨hid, rfl⟩
  have hread := (wellFormed_of_compose hr).readBack
  refine ⟨_, composeWithLogBytes_name.trans hr, ?_⟩
  rintro r' (h | h)
  · obtain rfl := Except.ok.inj (hread.text.symm.trans h)
    exact testLog_of_compose hr
  · obtain rfl := Except.ok.inj (hread.output.symm.trans h)
    exact testLog_of_compose hr

/-- **The records that are read are those that are composed.** -/
theorem composed_iff_decoded (r : TestResult) :
    (r.Decoded → r.testId ≠ "" ∧ ∃ log : Option Bytes, r.testLog.map Artifact.bytes = log.map .ok ∧
      composeWithLogBytes r.testId r.status.name r.expected log (some r.tags) = .ok r) ∧
    (r.Composed → r.checked = .ok r) ∧
    (r.Composed ↔ ∃ t, form.ofText t = .ok r) ∧
    (r.Composed ↔ ∃ v, form.take v = .ok r) ∧
    (r.Composed ∨ r.Decoded → r.WellFormed) := by
  refine ⟨fun h => ⟨h.wellFormed.testId, h.wellFormed.compose_self⟩, ?_, ?_, ?_, ?_⟩
  · exact fun h => checked_eq_ok.2 ⟨composed_iff.1 h, rfl⟩
  · constructor
    · intro h
      exact ⟨r.text, (composed_iff.1 h).readBack.text⟩
    · rintro ⟨t, h⟩
      exact composed_iff.2 (wellFormed_of_ofText h)
  · constructor
    · exact fun h => ⟨r.document, take_document (composed_iff.1 h)⟩
    · rintro ⟨v, h⟩
      exact composed_iff.2 (wellFormed_of_take h)
  · rintro (h | h)
    · exact composed_iff.1 h
    · exact h.wellFormed

end TestResult
end SinkReporter
