import SinkReporter.Settings.Basic
import SinkReporter.Proofs.Outcome
import SinkReporter.Proofs.Text.Digits
import SinkReporter.Proofs.Text.Split
/-!
# Proofs.Settings.Natural — which texts are numbers of 64 bits

White space aside, such a text is digits, with a plus sign before them or not, and the number that they stand for is below
2^64 (`naturalOfText_trim_eq_ok`).  The digits are read one by one, and what has been read only grows, so a number that fits in the
end has fitted all along (`digitsValue_eq_ok`).
-/
namespace SinkReporter

namespace Settings

/-! ## Digits -/

theorem digitIn?_ten_eq_some {c : Char} {d : Nat} : Text.digitIn? 10 c = some d ↔ c.isDigit = true ∧ c.toNat - 48 = d := by
  have hdigit : '0' ≤ c ∧ c ≤ '9' ↔ c.isDigit = true := Text.code_of_isDigit.symm
  rw [← hdigit, Text.digitIn?, Text.hex?, Option.filter_eq_some_iff, decide_eq_true_iff]
  by_cases h : '0' ≤ c ∧ c ≤ '9'
  · have hten : c.toNat - 48 < 10 := by
      have := Text.code_of_isDigit.1 (hdigit.1 h)
      omega
    rw [if_pos h]
    constructor
    · rintro ⟨hd, -⟩
      exact ⟨h, Option.some.inj hd⟩
    · rintro ⟨-, rfl⟩
      exact ⟨rfl, hten⟩
  · -- the letters stand for ten and more
    rw [if_neg h]
    refine iff_of_false ?_ fun hd => h hd.1
    rintro ⟨hd, hten⟩
    split at hd
    · rename_i hlower
      have hcode : 97 ≤ c.toNat := hlower.1
      cases hd
      omega
    split at hd
    · rename_i hupper
      have hcode : 65 ≤ c.toNat := hupper.1
      cases hd
      omega
    · cases hd

theorem not_isBlank_of_isDigit {c : Char} (h : c.isDigit = true) : Text.isBlank c = false := by
  have := Text.code_of_isDigit.1 h
  simp only [Text.isBlank, Bool.or_eq_false_iff, Bool.and_eq_false_iff, decide_eq_false_iff_not, beq_eq_false_iff_ne]
  omega

/-- **Digits are read when there is nothing else and their number fits.** -/
theorem digitsValue_eq_ok {s : List Char} {value n : Nat} (hvalue : value < UInt64.size) :
    digitsValue value s = .ok n ↔
      (∀ c ∈ s, c.isDigit = true) ∧ Nat.ofDigitChars 10 s value = n ∧ n < UInt64.size := by
  induction s generalizing value with
  | nil =>
    rw [digitsValue]
    constructor
    · intro h
      cases h
      exact ⟨(fun c hc => by cases hc), rfl, hvalue⟩
    · rintro ⟨-, rfl, -⟩
      rfl
  | cons c s ih =>
    rw [digitsValue, List.forall_mem_cons, Text.ofDigitChars_cons]
    cases hd : Text.digitIn? 10 c with
    | none =>
      have hc : ¬ c.isDigit = true := fun h => by
        rw [digitIn?_ten_eq_some.2 ⟨h, rfl⟩] at hd
        cases hd
      simp [hc]
    | some d =>
      obtain ⟨hc, rfl⟩ := digitIn?_ten_eq_some.1 hd
      dsimp only
      split
      · rename_i hfits
        rw [ih hfits]
        simp [hc]
      · -- what comes after would only make it larger
        rename_i hlarge
        constructor
        · intro h
          cases h
        · rintro ⟨-, rfl, hn⟩
          exact absurd (Nat.lt_of_le_of_lt (Text.le_ofDigitChars s _) hn) hlarge

/-! ## Signs and white space -/

theorem map_digitsValue_eq_ok {s : List Char} {n : UInt64} :
    (digitsValue 0 s).map UInt64.ofNat = .ok n ↔
      (∀ c ∈ s, c.isDigit = true) ∧ Nat.ofDigitChars 10 s 0 = n.toNat := by
  rw [map_eq_ok]
  constructor
  · rintro ⟨m, hm, rfl⟩
    obtain ⟨hdigits, hvalue, hfits⟩ := (digitsValue_eq_ok (by decide)).1 hm
    exact ⟨hdigits, hvalue.trans (UInt64.toNat_ofNat_of_lt' hfits).symm⟩
  · rintro ⟨hdigits, hvalue⟩
    exact ⟨n.toNat, (digitsValue_eq_ok (by decide)).2 ⟨hdigits, hvalue, n.toNat_lt_size⟩, UInt64.ofNat_toNat⟩

/-- A number is digits, of which there are some, behind a plus sign or not. -/
theorem naturalOfText_eq_ok {s : List Char} {n : UInt64} :
    naturalOfText s = .ok n ↔ ∃ sign digits, s = sign ++ digits ∧ (sign = [] ∨ sign = ['+']) ∧ digits ≠ [] ∧
      (∀ c ∈ digits, c.isDigit = true) ∧ Nat.ofDigitChars 10 digits 0 = n.toNat := by
  have hplus : ('+').isDigit = false := rfl
  unfold naturalOfText
  split
  · refine iff_of_false (by simp) ?_
    rintro ⟨sign, digits, hs, -, hne, -⟩
    exact hne (List.append_eq_nil_iff.1 hs.symm).2
  · refine iff_of_false (by simp) ?_
    rintro ⟨sign, digits, hs, rfl | rfl, hne, hdigits, -⟩
    · subst hs
      simp at hdigits
    · exact hne (List.cons.inj hs).2.symm
  · rename_i rest hrest
    rw [map_digitsValue_eq_ok]
    constructor
    · rintro ⟨hdigits, hvalue⟩
      exact ⟨['+'], rest, rfl, .inr rfl, hrest, hdigits, hvalue⟩
    · rintro ⟨sign, digits, hs, rfl | rfl, hne, hdigits, hvalue⟩
      · subst hs
        simp at hdigits
      · cases (List.cons.inj hs).2
        exact ⟨hdigits, hvalue⟩
  · rename_i hnil hsign hrest
    rw [map_digitsValue_eq_ok]
    constructor
    · rintro ⟨hdigits, hvalue⟩
      exact ⟨[], s, rfl, .inl rfl, hnil, hdigits, hvalue⟩
    · rintro ⟨sign, digits, hs, rfl | rfl, hne, hdigits, hvalue⟩
      · cases hs
        exact ⟨hdigits, hvalue⟩
      · exact (hrest digits hs).elim

/-- **A text spells a number** when, white space at both ends aside, it is digits that stand for it, with a plus sign before
them or not. -/
def SpellsNumber (text : String) (n : Nat) : Prop :=
  ∃ before sign digits after, text.toList = before ++ (sign ++ digits) ++ after ∧
    (∀ c ∈ before ++ after, Text.isBlank c = true) ∧ (sign = [] ∨ sign = ['+']) ∧
    digits ≠ [] ∧ (∀ c ∈ digits, c.isDigit = true) ∧ Nat.ofDigitChars 10 digits 0 = n

theorem spellsNumber_iff {text : String} {n : Nat} :
    SpellsNumber text n ↔ ∃ sign digits, Text.trim text.toList = sign ++ digits ∧ (sign = [] ∨ sign = ['+']) ∧
      digits ≠ [] ∧ (∀ c ∈ digits, c.isDigit = true) ∧ Nat.ofDigitChars 10 digits 0 = n := by
  constructor
  · rintro ⟨before, sign, digits, after, htext, hblank, hsign, hne, hdigits, hvalue⟩
    have hcore : ∀ c ∈ sign ++ digits, Text.isBlank c = false := by
      refine List.forall_mem_append.2 ⟨fun c hc => ?_, fun c hc => not_isBlank_of_isDigit (hdigits c hc)⟩
      rcases hsign with rfl | rfl
      · cases hc
      · rw [List.mem_singleton.1 hc]
        rfl
    refine ⟨sign, digits, ?_, hsign, hne, hdigits, hvalue⟩
    rw [htext, Text.trim_between hblank (List.append_ne_nil_of_right_ne_nil sign hne) hcore]
  · rintro ⟨sign, digits, hs, hrest⟩
    obtain ⟨before, after, htext, hblank⟩ := Text.exists_blanks_trim text.toList
    exact ⟨before, sign, digits, after, hs ▸ htext, hblank, hrest⟩

/-- **A text is read as a number just when it spells it.** -/
theorem naturalOfText_trim_eq_ok {text : String} {n : UInt64} :
    naturalOfText (Text.trim text.toList) = .ok n ↔ SpellsNumber text n.toNat := by
  rw [naturalOfText_eq_ok, spellsNumber_iff]

end Settings
end SinkReporter
