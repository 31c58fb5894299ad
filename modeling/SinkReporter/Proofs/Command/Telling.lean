import SinkReporter.Command.Report
/-!
# Proofs.Command.Telling — how a failure with one cause at most reads

The message stands on the first line.  If there is a cause, its lines come after it, each of them indented by four
(`Failure.toldAs_text`).
-/
namespace SinkReporter
namespace Command

/-! ## Lines -/

/-- **A text is made of lines**: there is at least one, no line has a line end in it, and line ends stand between them. -/
structure IsMadeOf (text : String) (lines : List String) : Prop where
  filled : lines ≠ []
  unbroken : ∀ line ∈ lines, '\n' ∉ line.toList
  joined : text = "\n".intercalate lines

theorem splitLines_spec : ∀ s : List Char, ∃ first others, splitLines s = first :: others ∧
    (∀ line ∈ first :: others, '\n' ∉ line) ∧ s = ['\n'].intercalate (first :: others)
  | [] => ⟨[], [], rfl, by simp, rfl⟩
  | c :: rest => by
    obtain ⟨first, others, hsplit, hunbroken, hjoined⟩ := splitLines_spec rest
    rw [splitLines, hsplit]
    by_cases hc : c = '\n'
    · rw [if_pos hc]
      refine ⟨[], first :: others, rfl, List.forall_mem_cons.2 ⟨List.not_mem_nil, hunbroken⟩, ?_⟩
      rw [List.intercalate_cons_cons, ← hjoined, hc]
      rfl
    · rw [if_neg hc]
      obtain ⟨hfirst, hothers⟩ := List.forall_mem_cons.1 hunbroken
      refine ⟨c :: first, others, rfl, List.forall_mem_cons.2 ⟨?_, hothers⟩, ?_⟩
      · exact List.not_mem_cons_of_ne_of_not_mem (Ne.symm hc) hfirst
      · rw [hjoined]
        cases others with
        | nil => simp
        | cons second others => simp [List.intercalate_cons_cons]

theorem isMadeOf_splitLines (text : String) : IsMadeOf text ((splitLines text.toList).map String.ofList) := by
  obtain ⟨first, others, hsplit, hunbroken, hjoined⟩ := splitLines_spec text.toList
  rw [hsplit]
  refine ⟨by simp, fun line hline => ?_, ?_⟩
  · obtain ⟨chars, hchars, rfl⟩ := List.mem_map.1 hline
    rw [String.toList_ofList]
    exact hunbroken chars hchars
  · refine String.toList_inj.1 ?_
    rw [String.toList_intercalate, List.map_map]
    simpa [Function.comp_def] using hjoined

theorem indented_eq (indent text : String) :
    indented indent indent text = "\n".intercalate (((splitLines text.toList).map String.ofList).map (indent ++ ·)) := by
  have hlines : ∀ lines : List String, lines ≠ [] →
      indent ++ ("\n" ++ indent).intercalate lines = "\n".intercalate (lines.map (indent ++ ·)) := by
    intro lines hfilled
    induction lines with
    | nil => exact absurd rfl hfilled
    | cons line lines ih =>
      cases lines with
      | nil => simp
      | cons next lines =>
        rw [String.intercalate_cons_cons, List.map_cons, List.map_cons, String.intercalate_cons_cons, ← List.map_cons,
          ← ih (List.cons_ne_nil _ _)]
        simp only [String.append_assoc]
  exact hlines _ (isMadeOf_splitLines text).filled

/-! ## Failures -/

/-- **A text tells a failure** that has one cause at most: its message, and the lines of the cause behind it, each of them
indented by four. -/
structure Failure.ToldAs (f : Failure) (text : String) : Prop where
  few : f.causes.length ≤ 1
  alone : f.causes = [] → text = "Error: " ++ f.message ++ "\n"
  caused : ∀ cause, f.causes = [cause] → ∃ lines, IsMadeOf cause lines ∧
    text = "Error: " ++ f.message ++ "\n\nCaused by:\n" ++ "\n".intercalate (lines.map ("    " ++ ·)) ++ "\n"

/-- **The text of a failure tells it.** -/
theorem Failure.toldAs_text {f : Failure} (h : f.causes.length ≤ 1) : f.ToldAs f.text := by
  refine ⟨h, fun hnone => ?_, fun cause hcause => ⟨_, isMadeOf_splitLines cause, ?_⟩⟩
  · rw [Failure.text, hnone]
    simp
  · rw [Failure.text, hcause, ← indented_eq]
    simp only [String.append_assoc]

example : Failure.text ⟨"Failed to read log file: out.txt", ["No such file\nor directory"]⟩ =
    "Error: Failed to read log file: out.txt\n\nCaused by:\n    No such file\n    or directory\n" := by decide

end Command
end SinkReporter
