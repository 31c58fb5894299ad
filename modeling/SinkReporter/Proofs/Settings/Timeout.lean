import SinkReporter.Proofs.Settings.Precedence
import Mathlib.Algebra.Group.Nat.Defs
/-!
# Proofs.Settings.Timeout — the timeout that the environment sets

A text that spells no number is blank, or a plus sign alone, or has a character in it that is no digit
(`exists_spellsNumber_iff`).  A number is taken as it is, or not at all: digits that would make it too large are
refused, they never wrap (`naturalOfText_trim_eq_tooLarge`).
-/
namespace SinkReporter
namespace Settings

variable {w : World} {x : String}

/-! ## Which numbers texts spell -/

/-- **A text spells no number.**  Without the white space at its ends it is empty, or a plus sign alone, or it starts with
something else than a digit or a plus sign, or something else than a digit stands further on. -/
inductive SpellsNone (x : String) : Prop where
  | blank (h : Text.trim x.toList = [])
  | signAlone (h : Text.trim x.toList = ['+'])
  | start {c : Char} {rest : List Char} (h : Text.trim x.toList = c :: rest) (hplus : c ≠ '+') (hc : c.isDigit = false)
  | later {c d : Char} {rest : List Char} (h : Text.trim x.toList = c :: rest) (hmem : d ∈ rest) (hd : d.isDigit = false)

theorem SpellsNone.not_spellsNumber {n : Nat} (h : SpellsNone x) : ¬ SpellsNumber x n := by
  intro hn
  obtain ⟨sign, digits, htrim, hsign, hne, hdigits, -⟩ := spellsNumber_iff.1 hn
  obtain ⟨d, digits, rfl⟩ := List.exists_cons_of_ne_nil hne
  obtain ⟨hd, hrest⟩ := List.forall_mem_cons.1 hdigits
  rcases hsign with rfl | rfl
  · cases h with
    | blank h => cases htrim.symm.trans h
    | signAlone h =>
      cases htrim.symm.trans h
      cases hd
    | start h _ hc =>
      cases htrim.symm.trans h
      cases hd.symm.trans hc
    | later h hmem hc =>
      cases htrim.symm.trans h
      cases (hrest _ hmem).symm.trans hc
  · cases h with
    | blank h => cases htrim.symm.trans h
    | signAlone h => cases htrim.symm.trans h
    | start h hplus =>
      cases htrim.symm.trans h
      exact hplus rfl
    | later h hmem hc =>
      cases htrim.symm.trans h
      cases (hdigits _ hmem).symm.trans hc

theorem exists_spellsNumber (h : ¬ SpellsNone x) : ∃ n, SpellsNumber x n := by
  cases htrim : Text.trim x.toList with
  | nil => exact absurd (.blank htrim) h
  | cons c rest =>
    have hrest : ∀ d ∈ rest, d.isDigit = true := fun d hmem =>
      Bool.not_eq_false _ ▸ fun hd => h (.later htrim hmem hd)
    by_cases hplus : c = '+'
    · subst hplus
      have hne : rest ≠ [] := by
        rintro rfl
        exact h (.signAlone htrim)
      exact ⟨_, spellsNumber_iff.2 ⟨['+'], rest, htrim, .inr rfl, hne, hrest, rfl⟩⟩
    · have hc : c.isDigit = true := Bool.not_eq_false _ ▸ fun hc => h (.start htrim hplus hc)
      exact ⟨_, spellsNumber_iff.2
        ⟨[], c :: rest, htrim, .inl rfl, List.cons_ne_nil c rest, List.forall_mem_cons.2 ⟨hc, hrest⟩, rfl⟩⟩

/-- **Either a text spells a number, or it is one of those that spell none.** -/
theorem exists_spellsNumber_iff : (∃ n, SpellsNumber x n) ↔ ¬ SpellsNone x :=
  ⟨fun ⟨_, hn⟩ h => h.not_spellsNumber hn, exists_spellsNumber⟩

/-- **A number in decimal spells itself.** -/
theorem spellsNumber_toString (n : Nat) : SpellsNumber (toString n) n :=
  ⟨[], [], Nat.toDigits 10 n, [], by simp, (fun c hc => by cases hc), .inl rfl, Nat.toDigits_ne_nil,
    fun _ => Text.isDigit_of_mem_toDigits, Nat.ofDigitChars_ten_toDigits⟩

/-! ## Which numbers are read -/

/-- **Digits that make a number too large are refused**, however many of them there are. -/
theorem digitsValue_eq_tooLarge {s : List Char} {value : Nat} (hvalue : value < UInt64.size)
    (hdigits : ∀ c ∈ s, c.isDigit = true) (hlarge : UInt64.size ≤ Nat.ofDigitChars 10 s value) :
    digitsValue value s = .error .tooLarge := by
  induction s generalizing value with
  | nil => exact absurd hvalue (Nat.not_lt.2 hlarge)
  | cons c s ih =>
    obtain ⟨hc, hs⟩ := List.forall_mem_cons.1 hdigits
    rw [Text.ofDigitChars_cons] at hlarge
    rw [digitsValue, digitIn?_ten_eq_some.2 ⟨hc, rfl⟩]
    dsimp only
    split
    · rename_i hfits
      exact ih hfits hs hlarge
    · rfl

theorem naturalOfText_of_digits {sign digits : List Char} (hsign : sign = [] ∨ sign = ['+']) (hne : digits ≠ [])
    (hdigits : ∀ c ∈ digits, c.isDigit = true) :
    naturalOfText (sign ++ digits) = (digitsValue 0 digits).map UInt64.ofNat := by
  obtain ⟨d, digits, rfl⟩ := List.exists_cons_of_ne_nil hne
  rcases hsign with rfl | rfl
  · have hd : d ≠ '+' := by
      rintro rfl
      cases (List.forall_mem_cons.1 hdigits).1
    unfold naturalOfText
    split
    · rename_i heq
      cases heq
    · rename_i heq
      cases heq
      exact absurd rfl hd
    · rename_i heq
      cases heq
      exact absurd rfl hd
    · rfl
  · rfl

theorem naturalOfText_trim_of_lt {n : Nat} (h : SpellsNumber x n) (hn : n < UInt64.size) :
    naturalOfText (Text.trim x.toList) = .ok (UInt64.ofNat n) := by
  rw [naturalOfText_trim_eq_ok, UInt64.toNat_ofNat_of_lt' hn]
  exact h

/-- **A number of more than 64 bits is refused as such.** -/
theorem naturalOfText_trim_eq_tooLarge {n : Nat} (h : SpellsNumber x n) (hn : UInt64.size ≤ n) :
    naturalOfText (Text.trim x.toList) = .error .tooLarge := by
  obtain ⟨sign, digits, htrim, hsign, hne, hdigits, rfl⟩ := spellsNumber_iff.1 h
  rw [htrim, naturalOfText_of_digits hsign hne hdigits, digitsValue_eq_tooLarge (by decide) hdigits hn]
  rfl

theorem SpellsNone.exists_fault (h : SpellsNone x) : ∃ fault, naturalOfText (Text.trim x.toList) = .error fault :=
  exists_error fun _ hread => h.not_spellsNumber (naturalOfText_trim_eq_ok.1 hread)

/-- The number that a text spells is zero, or it fits into 64 bits, or it does not. -/
theorem spelling_cases (x : String) :
    SpellsNone x ∨ SpellsNumber x 0 ∨ (∃ n, SpellsNumber x n ∧ 2 ^ 64 ≤ n) ∨
      ∃ n, SpellsNumber x n ∧ 1 ≤ n ∧ n ≤ 2 ^ 64 - 1 := by
  by_cases hnone : SpellsNone x
  · exact .inl hnone
  obtain ⟨n, hn⟩ := exists_spellsNumber hnone
  rcases Nat.eq_zero_or_pos n with rfl | hpos
  · exact .inr (.inl hn)
  · rcases Nat.lt_or_ge n (2 ^ 64) with hlt | hge
    · exact .inr (.inr (.inr ⟨n, hn, hpos, Nat.le_sub_one_of_lt hlt⟩))
    · exact .inr (.inr (.inl ⟨n, hn, hge⟩))

/-! ## The environment -/

theorem validate_timeout (secs : UInt64) : (⟨some secs, none⟩ : Settings).validate =
    if secs = 0 then .error (.invalidValue "timeout_secs" "must be greater than zero") else .ok () := by
  simp [validate]

section Environment

variable (hx : w.text? timeoutVariable = some x) (hvariable : w.text? contextVarVariable = none)

include hx hvariable

theorem ofEnvironment_eq :
    ofEnvironment w = match naturalOfText (Text.trim x.toList) with
      | .error fault => .error (.invalidValue timeoutVariable fault.message)
      | .ok secs =>
        if secs = 0 then .error (.invalidValue "timeout_secs" "must be greater than zero") else .ok ⟨some secs, none⟩ := by
  rw [ofEnvironment, overridden_eq, timeoutAfter, hx]
  dsimp only
  cases naturalOfText (Text.trim x.toList) with
  | error fault => rfl
  | ok secs =>
    have hwith : withTimeout w empty (some secs) = ⟨some secs, none⟩ := by
      rw [withTimeout, hvariable]
      rfl
    refine (congrArg (fun s => (validate s).map fun _ => s) hwith).trans ?_
    rw [validate_timeout]
    dsimp only
    split <;> rfl

theorem ofEnvironment_of_none (h : SpellsNone x) :
    ∃ fault : NaturalFault, ofEnvironment w = .error (.invalidValue timeoutVariable fault.message) := by
  obtain ⟨fault, hfault⟩ := h.exists_fault
  exact ⟨fault, by rw [ofEnvironment_eq hx hvariable, hfault]⟩

theorem ofEnvironment_of_zero (h : SpellsNumber x 0) :
    ofEnvironment w = .error (.invalidValue "timeout_secs" "must be greater than zero") := by
  rw [ofEnvironment_eq hx hvariable, naturalOfText_trim_of_lt h (by decide)]
  rfl

theorem ofEnvironment_of_large {n : Nat} (h : SpellsNumber x n) (hn : 2 ^ 64 ≤ n) :
    ofEnvironment w = .error (.invalidValue timeoutVariable NaturalFault.tooLarge.message) := by
  rw [ofEnvironment_eq hx hvariable, naturalOfText_trim_eq_tooLarge h hn]

theorem ofEnvironment_of_fits {secs : UInt64} (h : SpellsNumber x secs.toNat) (hsecs : 1 ≤ secs.toNat) :
    ofEnvironment w = .ok ⟨some secs, none⟩ := by
  have hne : secs ≠ 0 := by
    rintro rfl
    cases hsecs
  rw [ofEnvironment_eq hx hvariable, naturalOfText_trim_eq_ok.2 h]
  exact if_neg hne

theorem ofEnvironment_of_not_fits (h : ¬ ∃ n, SpellsNumber x n ∧ 1 ≤ n ∧ n ≤ 2 ^ 64 - 1) :
    ∃ field reason, ofEnvironment w = .error (.invalidValue field reason) := by
  rcases spelling_cases x with hnone | hzero | ⟨n, hn, hlarge⟩ | hfits
  · obtain ⟨fault, hfault⟩ := ofEnvironment_of_none hx hvariable hnone
    exact ⟨_, _, hfault⟩
  · exact ⟨_, _, ofEnvironment_of_zero hx hvariable hzero⟩
  · exact ⟨_, _, ofEnvironment_of_large hx hvariable hn hlarge⟩
  · exact absurd hfits h

theorem ofEnvironment_of_number {n : Nat} (h : SpellsNumber x n) (hpos : 1 ≤ n) (hn : n ≤ 2 ^ 64 - 1) :
    ∃ secs : UInt64, ofEnvironment w = .ok ⟨some secs, none⟩ ∧ secs.toNat = n := by
  have hsecs : (UInt64.ofNat n).toNat = n := UInt64.toNat_ofNat_of_lt' (Nat.lt_of_le_of_lt hn (by decide))
  rw [← hsecs] at h hpos
  exact ⟨UInt64.ofNat n, ofEnvironment_of_fits hx hvariable h hpos, hsecs⟩

/-- **The timeout of the environment is the number that its text spells**, when the environment says nothing else.  There
are settings just when the text, white space at its ends aside, is decimal digits with a plus sign before them or not, and
their number is at least one and has no more than 64 bits; the timeout is then this number.  Each other text is an invalid
value: one that spells no number, such as an empty one, a sign alone, a negative number, or one with anything but digits in
it; one that spells zero; and one that spells a number of more than 64 bits, however long it is.  Every timeout from one on,
written in decimal, is what it is read as. -/
theorem timeout_exact :
    ((∃ s, ofEnvironment w = .ok s) ↔ ∃ n, SpellsNumber x n ∧ 1 ≤ n ∧ n ≤ 2 ^ 64 - 1) ∧
    (∀ n, SpellsNumber x n → 1 ≤ n → n ≤ 2 ^ 64 - 1 →
      ∃ secs : UInt64, ofEnvironment w = .ok ⟨some secs, none⟩ ∧ secs.toNat = n) ∧
    ((¬ ∃ n, SpellsNumber x n ∧ 1 ≤ n ∧ n ≤ 2 ^ 64 - 1) →
      ∃ field reason, ofEnvironment w = .error (.invalidValue field reason)) ∧
    ((∃ n, SpellsNumber x n) ↔ ¬ SpellsNone x) ∧
    (SpellsNone x → ∃ fault : NaturalFault, ofEnvironment w = .error (.invalidValue timeoutVariable fault.message)) ∧
    (SpellsNumber x 0 → ofEnvironment w = .error (.invalidValue "timeout_secs" "must be greater than zero")) ∧
    (∀ n, SpellsNumber x n → 2 ^ 64 ≤ n →
      ofEnvironment w = .error (.invalidValue timeoutVariable NaturalFault.tooLarge.message)) ∧
    ∀ secs : UInt64, 1 ≤ secs → x = toString secs → ofEnvironment w = .ok ⟨some secs, none⟩ := by
  refine ⟨⟨fun ⟨s, hs⟩ => ?_, fun ⟨n, hn, hpos, hfits⟩ => ?_⟩, fun _ => ofEnvironment_of_number hx hvariable,
    ofEnvironment_of_not_fits hx hvariable, exists_spellsNumber_iff, ofEnvironment_of_none hx hvariable,
    ofEnvironment_of_zero hx hvariable, fun _ => ofEnvironment_of_large hx hvariable, fun secs hsecs htext => ?_⟩
  · refine Classical.byContradiction fun hnot => ?_
    obtain ⟨field, reason, hfault⟩ := ofEnvironment_of_not_fits hx hvariable hnot
    cases hfault.symm.trans hs
  · obtain ⟨secs, hsecs, -⟩ := ofEnvironment_of_number hx hvariable hn hpos hfits
    exact ⟨_, hsecs⟩
  · exact ofEnvironment_of_fits hx hvariable (htext ▸ spellsNumber_toString secs.toNat) (UInt64.le_iff_toNat_le.1 hsecs)

end Environment

/-- A text with white space, a plus sign and leading zeros around the largest number of 64 bits. -/
theorem timeout_exact_largest :
    (World.ofTimeouts "" " +00018446744073709551615 ").text? timeoutVariable = some " +00018446744073709551615 " ∧
    (World.ofTimeouts "" " +00018446744073709551615 ").text? contextVarVariable = none ∧
    ofEnvironment (.ofTimeouts "" " +00018446744073709551615 ") = .ok ⟨some 18446744073709551615, none⟩ := by
  have hx : (World.ofTimeouts "" " +00018446744073709551615 ").text? timeoutVariable =
    some " +00018446744073709551615 " := by rfl
  have hvariable : (World.ofTimeouts "" " +00018446744073709551615 ").text? contextVarVariable = none := by rfl
  have hspells : SpellsNumber " +00018446744073709551615 " 18446744073709551615 :=
    ⟨[' '], ['+'], "00018446744073709551615".toList, [' '], rfl, List.all_eq_true.1 rfl, .inr rfl, by decide,
      List.all_eq_true.1 rfl, by decide⟩
  obtain ⟨secs, hok, hsecs⟩ := (timeout_exact hx hvariable).2.1 _ hspells (by decide) (by decide)
  rw [show secs = 18446744073709551615 from UInt64.toNat_inj.1 hsecs] at hok
  exact ⟨hx, hvariable, hok⟩

end Settings
end SinkReporter
