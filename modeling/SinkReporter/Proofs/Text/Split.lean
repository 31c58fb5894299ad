import SinkReporter.Text.Blank
import SinkReporter.Text.Split
/-!
# Proofs.Text.Split — what is left of a text once it is cut

White space at either end goes, and what stands between stays (`trim_between`).  Behind the last mark there is no mark, and
a text that has none stays whole (`snd_cutAtLast_eq`).
-/
namespace SinkReporter
namespace Text

/-! ## White space -/

theorem exists_blanks_trim (s : List Char) :
    ∃ before after, s = before ++ trim s ++ after ∧ ∀ c ∈ before ++ after, isBlank c = true := by
  refine ⟨s.takeWhile isBlank, ((s.dropWhile isBlank).reverse.takeWhile isBlank).reverse, ?_, fun c hc => ?_⟩
  · rw [trim, List.append_assoc, ← List.reverse_append, List.takeWhile_append_dropWhile, List.reverse_reverse,
      List.takeWhile_append_dropWhile]
  · rcases List.mem_append.1 hc with hc | hc
    · exact List.all_eq_true.1 List.all_takeWhile c hc
    · exact List.all_eq_true.1 List.all_takeWhile c (List.mem_reverse.1 hc)

theorem dropWhile_blanks {before core : List Char} (hb : ∀ c ∈ before, isBlank c = true)
    (hc : ∀ c ∈ core.head?, isBlank c = false) : (before ++ core).dropWhile isBlank = core := by
  rw [List.dropWhile_append_of_pos hb]
  cases core with
  | nil => rfl
  | cons c core => exact List.dropWhile_cons_of_neg (by simp [hc c rfl])

theorem trim_between {before core after : List Char} (hb : ∀ c ∈ before ++ after, isBlank c = true) (hne : core ≠ [])
    (hc : ∀ c ∈ core, isBlank c = false) : trim (before ++ core ++ after) = core := by
  obtain ⟨hbefore, hafter⟩ := List.forall_mem_append.1 hb
  have hhead : ∀ c ∈ (core ++ after).head?, isBlank c = false := fun c h => by
    obtain ⟨d, core, rfl⟩ := List.exists_cons_of_ne_nil hne
    cases h
    exact hc _ List.mem_cons_self
  rw [trim, List.append_assoc, dropWhile_blanks hbefore hhead, List.reverse_append,
    dropWhile_blanks (fun c h => hafter c (List.mem_reverse.1 h))
      (fun c h => hc c (List.mem_reverse.1 (List.mem_of_mem_head? h))), List.reverse_reverse]

theorem toLower_of_isBlank {c : Char} (h : isBlank c = true) : c.toLower = c := by
  have hupper : ¬ (65 ≤ c.toNat ∧ c.toNat ≤ 90) := fun hu => by
    simp only [isBlank, Bool.or_eq_true, Bool.and_eq_true, decide_eq_true_eq, beq_iff_eq] at h
    omega
  exact dif_neg hupper

/-! ## Marks -/

theorem cutAtLast_of_not_mem {mark : Char} {s : List Char} (h : mark ∉ s) : cutAtLast mark s = (none, s) := by
  have hback : ∀ c ∈ s.reverse, decide (c ≠ mark) = true := fun c hc =>
    decide_eq_true fun heq => h (heq ▸ List.mem_reverse.1 hc)
  rw [cutAtLast, ← List.append_nil s.reverse, List.dropWhile_append_of_pos hback]
  rfl

theorem cutAtLast_append {mark : Char} (front : List Char) {rest : List Char} (h : mark ∉ rest) :
    cutAtLast mark (front ++ mark :: rest) = (some front, rest) := by
  have hback : (front ++ mark :: rest).reverse = rest.reverse ++ mark :: front.reverse := by simp
  have hrest : ∀ c ∈ rest.reverse, decide (c ≠ mark) = true := fun c hc =>
    decide_eq_true fun heq => h (heq ▸ List.mem_reverse.1 hc)
  rw [cutAtLast, hback, List.dropWhile_append_of_pos hrest, List.takeWhile_append_of_pos hrest]
  simp

/-- **What is behind the last mark**, or all of a text that has none. -/
theorem snd_cutAtLast_eq {mark : Char} {s rest : List Char} :
    (cutAtLast mark s).2 = rest ↔ mark ∉ rest ∧ (s = rest ∨ ∃ front, s = front ++ mark :: rest) := by
  constructor
  · rintro rfl
    by_cases hs : mark ∈ s
    · obtain ⟨back, front, hback, hfree⟩ := List.eq_append_cons_of_mem (List.mem_reverse.2 hs)
      obtain rfl : s = front.reverse ++ mark :: back.reverse := by
        rw [← List.reverse_reverse s, hback]
        simp
      rw [cutAtLast_append _ (mt List.mem_reverse.1 hfree)]
      exact ⟨mt List.mem_reverse.1 hfree, .inr ⟨_, rfl⟩⟩
    · rw [cutAtLast_of_not_mem hs]
      exact ⟨hs, .inl rfl⟩
  · rintro ⟨hrest, rfl | ⟨front, rfl⟩⟩
    · rw [cutAtLast_of_not_mem hrest]
    · rw [cutAtLast_append front hrest]

end Text
end SinkReporter
