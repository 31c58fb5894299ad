import SinkReporter.Proofs.Context.Resolution
import SinkReporter.Settings.Basic
/-!
# Proofs.Settings.Loading — the settings do not hang on the context file

A context file starts with a bracket, white space aside, and no line of a settings file does.  No file is therefore both,
and worlds that differ in a context file alone have the same settings (`gather_of_besides`).
-/
namespace SinkReporter

open Json (skipSpace isSpace)

/-! ## No file is both -/

def StartsWithBracket (s : List Char) : Prop := ∃ rest, skipSpace s = '[' :: rest ∨ skipSpace s = '\x7b' :: rest

theorem StartsWithBracket.tail {c : Char} {s : List Char} (h : StartsWithBracket (c :: s)) (hc : isSpace c = true) :
    StartsWithBracket s := by
  have hskip : skipSpace (c :: s) = skipSpace s := Json.skipSpace_append [c] (by simp [hc]) s
  obtain ⟨rest, hrest⟩ := h
  exact ⟨rest, hskip ▸ hrest⟩

theorem StartsWithBracket.head {c : Char} {s : List Char} (h : StartsWithBracket (c :: s)) (hc : isSpace c = false) :
    c = '[' ∨ c = '\x7b' := by
  obtain ⟨rest, hrest⟩ := h
  rw [Json.skipSpace_of_not hc] at hrest
  rcases hrest with hrest | hrest
  · cases hrest
    exact .inl rfl
  · cases hrest
    exact .inr rfl

theorem StartsWithBracket.ne_nil (h : StartsWithBracket []) : False := by
  obtain ⟨rest, hrest | hrest⟩ := h
  · cases hrest
  · cases hrest

namespace Settings

theorem startsWithBracket_skipBlank : ∀ {s : List Char}, StartsWithBracket s → StartsWithBracket (skipBlank s)
  | [], h => h.ne_nil.elim
  | c :: s, h => by
    by_cases hc : c = ' ' ∨ c = '\t'
    · have hskip : skipBlank (c :: s) = skipBlank s := by simp [skipBlank, hc]
      have hspace : isSpace c = true := by
        rcases hc with rfl | rfl <;> rfl
      rw [hskip]
      exact startsWithBracket_skipBlank (h.tail hspace)
    · have hskip : skipBlank (c :: s) = c :: s := by simp [skipBlank, hc]
      rw [hskip]
      exact h

theorem not_blank_of_skipBlank {s t : List Char} {c : Char} (h : skipBlank s = c :: t) : ¬ (c = ' ' ∨ c = '\t') := by
  have hhead := List.head?_dropWhile_not (fun c : Char => c = ' ' || c = '\t') s
  rw [skipBlank] at h
  rw [h] at hhead
  simpa using hhead

theorem readLineEnd_carriage {c : Char} (hc : c ≠ '\n') (s : List Char) : readLineEnd ('\r' :: c :: s) = none := by
  have hskip : skipBlank ('\r' :: c :: s) = '\r' :: c :: s := by simp [skipBlank]
  rw [readLineEnd, hskip]
  simp [hc]

theorem readSetting_bracket {c : Char} (hc : c = '[' ∨ c = '\x7b') (s : List Char) : readSetting (c :: s) = none := by
  rcases hc with rfl | rfl <;> rfl

/-- **There are no lines of settings in a text that starts with a bracket.** -/
theorem readLines_bracket (fuel : Nat) {s : List Char} (h : StartsWithBracket s) : readLines fuel s = none := by
  induction fuel generalizing s with
  | zero =>
    cases s with
    | nil => exact h.ne_nil.elim
    | cons c s => rfl
  | succ fuel ih =>
    have hblank := startsWithBracket_skipBlank h
    rw [readLines]
    cases hs : skipBlank s with
    | nil => exact (hs ▸ hblank).ne_nil.elim
    | cons c rest =>
      have hnot := not_blank_of_skipBlank hs
      rw [hs] at hblank
      dsimp only
      by_cases hspace : isSpace c = true
      · -- the line ends here, and the bracket stands on a later one
        have hrest := hblank.tail hspace
        have hend : c = '\n' ∨ c = '\r' := by
          simp only [isSpace, Bool.or_eq_true, decide_eq_true_eq] at hspace
          grind
        rcases hend with rfl | rfl
        · rw [if_pos (.inl rfl)]
          exact ih hrest
        · rw [if_pos (.inr (.inl rfl))]
          cases rest with
          | nil => exact hrest.ne_nil.elim
          | cons d rest =>
            by_cases hd : d = '\n'
            · subst hd
              exact ih (hrest.tail rfl)
            · rw [readLineEnd_carriage hd]
              rfl
      · have hbracket := hblank.head (by simpa using hspace)
        have hsetting : ¬ (c = '\n' ∨ c = '\r' ∨ c = '#') := by
          rcases hbracket with rfl | rfl <;> decide
        rw [if_neg hsetting, readSetting_bracket hbracket]

theorem ofText?_bracket {text : String} (h : StartsWithBracket text.toList) : ofText? text = none := by
  have hlines : lines text = none := by
    unfold lines
    split
    · -- a byte-order mark is no white space of a context file
      rename_i rest hs
      rw [hs] at h
      rcases h.head (by decide) with hc | hc
      · exact absurd hc (by decide)
      · exact absurd hc (by decide)
    · exact readLines_bracket _ h
  rw [ofText?, hlines]
  rfl

end Settings

theorem Context.startsWithBracket {text : String} {c : Context} (h : Context.form.ofText text = .ok c) :
    StartsWithBracket text.toList := by
  obtain ⟨rest, hread, -⟩ := Json.ofText_eq_ok.1 h
  rcases Json.Record.read_form.1 hread with ⟨t, d, hs, -⟩ | ⟨t, d, hs, -⟩
  · exact ⟨t, .inl hs⟩
  · exact ⟨t, .inr hs⟩

/-- **No file of settings is a context file.** -/
theorem Settings.load_ne_ok {w : World} {path : Bytes} {text : String} {c : Context} (htext : w.readText path = .ok text)
    (hc : Context.form.ofText text = .ok c) (s : Settings) : Settings.load w path ≠ .ok s := by
  intro h
  rw [Settings.load, htext] at h
  dsimp only at h
  rw [Settings.ofText?_bracket (Context.startsWithBracket hc)] at h
  cases h

/-! ## Worlds that differ in one file -/

/-- **Two worlds differ in one file alone**, by whatever other paths this file is reached. -/
structure World.Besides (w w' : World) (path : Bytes) : Prop where
  value : w.value? = w'.value?
  read : ∀ other, w.read other = w'.read other ∨ w.read other = w.read path ∧ w'.read other = w'.read path

theorem World.besides_ofContext (text text' : String) :
    (World.ofContext text).Besides (World.ofContext text') (Text.bytes "context.json") where
  value := rfl
  read other := by
    by_cases hpath : other = Text.bytes "context.json"
    · exact .inr ⟨by rw [hpath], by rw [hpath]⟩
    · exact .inl ((if_neg hpath).trans (if_neg hpath).symm)

namespace Settings

variable {w w' : World} {path : Bytes}

theorem overridden_of_besides (h : w.Besides w' path) (s : Settings) : overridden w s = overridden w' s := by
  unfold overridden World.text?
  rw [h.value]

/-- **The settings do not hang on the context file.** -/
theorem gather_of_besides (h : w.Besides w' path) {text : String} {c : Context} (htext : w.readText path = .ok text)
    (hc : Context.form.ofText text = .ok c) {path? : Option Bytes} {s : Settings} (hs : gather w path? = .ok s) :
    gather w' path? = .ok s := by
  cases path? with
  | none =>
    rw [gather, ← overridden_of_besides h]
    exact hs
  | some other =>
    obtain ⟨s₀, hload, hover⟩ := bind_eq_ok.1 hs
    rcases h.read other with hsame | ⟨hother, -⟩
    · have hload' : load w' other = .ok s₀ := by
        rw [← hload, load, load, World.readText, World.readText, hsame]
      exact bind_eq_ok.2 ⟨s₀, hload', by rw [← overridden_of_besides h]; exact hover⟩
    · -- the settings would stand in the context file
      have hsame : w.readText other = .ok text := by
        rw [← htext, World.readText, World.readText, hother]
      exact absurd hload (load_ne_ok hsame hc s₀)

end Settings
end SinkReporter
