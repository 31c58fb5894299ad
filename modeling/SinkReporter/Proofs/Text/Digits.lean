/-!
# Proofs.Text.Digits — decimal digits and the numbers that they stand for

Reading digits from the left only makes the number larger (`le_ofDigitChars`).  What is written of a number starts with a
zero only for zero itself, so that of all the ways to put zeros in front of digits the one without is what the number is
written as (`toDigits_append`).
-/
namespace SinkReporter
namespace Text

theorem code_of_isDigit {c : Char} : c.isDigit = true ↔ 48 ≤ c.toNat ∧ c.toNat ≤ 57 := Char.isDigit_iff_toNat

theorem ofDigitChars_cons (c : Char) (s : List Char) (value : Nat) :
    Nat.ofDigitChars 10 (c :: s) value = Nat.ofDigitChars 10 s (value * 10 + (c.toNat - 48)) := by
  rw [Nat.ofDigitChars_cons, Nat.mul_comm]
  rfl

theorem le_ofDigitChars (s : List Char) (value : Nat) : value ≤ Nat.ofDigitChars 10 s value := by
  induction s generalizing value with
  | nil => exact Nat.le_refl value
  | cons c s ih =>
    rw [ofDigitChars_cons]
    have := ih (value * 10 + (c.toNat - 48))
    omega

theorem toDigits_of_isDigit {c : Char} (h : c.isDigit = true) : Nat.toDigits 10 (c.toNat - 48) = [c] := by
  have hcode := code_of_isDigit.1 h
  have hdigit : ∀ n < 10, Nat.digitChar n = Char.ofNat (48 + n) := by decide
  rw [Nat.toDigits_of_lt_base (by omega), hdigit _ (by omega), Nat.add_sub_cancel' hcode.1, Char.ofNat_toNat]

/-- **More digits go behind a number** that is not zero. -/
theorem toDigits_append {n : Nat} (hn : 0 < n) {ds : List Char} (hds : ∀ d ∈ ds, d.isDigit = true) :
    Nat.toDigits 10 n ++ ds = Nat.toDigits 10 (Nat.ofDigitChars 10 ds n) := by
  induction ds generalizing n with
  | nil => rw [List.append_nil, Nat.ofDigitChars_nil]
  | cons c ds ih =>
    obtain ⟨hc, hds⟩ := List.forall_mem_cons.1 hds
    have hcode := code_of_isDigit.1 hc
    have hnext : Nat.toDigits 10 n ++ [c] = Nat.toDigits 10 (n * 10 + (c.toNat - 48)) := by
      rw [← toDigits_of_isDigit hc, Nat.toDigits_append_toDigits (by decide) hn (by omega), Nat.mul_comm]
    rw [ofDigitChars_cons, ← ih (by omega) hds, ← hnext, List.append_assoc]
    rfl

theorem toDigits_ne_zero_cons {n : Nat} (hn : 0 < n) (ds : List Char) : Nat.toDigits 10 n ≠ '0' :: ds := by
  induction n using Nat.strongRecOn generalizing ds with
  | ind n ih =>
    intro h
    rw [Nat.toDigits_eq_if (by decide)] at h
    split at h
    · have hzero : ∀ n < 10, Nat.digitChar n = '0' → n = 0 := by decide
      exact absurd (hzero n ‹_› (List.cons.inj h).1) (Nat.ne_of_gt hn)
    · -- all digits but the last are those of a tenth of the number
      cases hinit : Nat.toDigits 10 (n / 10) with
      | nil => exact Nat.toDigits_ne_nil hinit
      | cons c init =>
        rw [hinit, List.cons_append] at h
        refine ih (n / 10) (by omega) (by omega) init ?_
        rw [hinit, (List.cons.inj h).1]

theorem isDigit_of_mem_toDigits {n : Nat} {c : Char} (h : c ∈ Nat.toDigits 10 n) : c.isDigit = true :=
  Nat.isDigit_of_mem_toDigits (by decide) (by decide) h

end Text
end SinkReporter
