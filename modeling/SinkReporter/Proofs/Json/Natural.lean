import SinkReporter.Proofs.Json.Agreement
import SinkReporter.Proofs.Json.Layout
import SinkReporter.Proofs.Text.Digits
/-!
# Proofs.Json.Natural — natural numbers of 64 bits as they are written

A natural number is read where its decimal digits stand, with no sign, no fraction, no exponent and no zeros in front of
them (`toDigits_of_readNumber`, `readNumber_toDigits`).  Digits that would make it too large are dropped, and what is read
is then no whole number any more.
-/
namespace SinkReporter
namespace Json

/-! ## Taking digits -/

theorem digit?_eq_some {c : Char} {d : Nat} : digit? c = some d ↔ c.isDigit = true ∧ c.toNat - 48 = d := by
  have hdigit : '0' ≤ c ∧ c ≤ '9' ↔ c.isDigit = true := Text.code_of_isDigit.symm
  have hzero : '0'.toNat = 48 := rfl
  rw [← hdigit, digit?, hzero]
  by_cases h : '0' ≤ c ∧ c ≤ '9'
  · rw [if_pos h, Option.some.injEq, and_iff_right h]
  · rw [if_neg h]
    exact iff_of_false (fun hd => by cases hd) fun hd => h hd.1

/-- **Digits whose number is below the limit are all taken.** -/
theorem takeDigits_append {limit : Nat} {rest : List Char} (hrest : startsWithDigit rest = false) :
    ∀ {ds : List Char} {value : Nat} (count : Nat), (∀ d ∈ ds, d.isDigit = true) → Nat.ofDigitChars 10 ds value < limit →
      takeDigits limit value count (ds ++ rest) = (Nat.ofDigitChars 10 ds value, count + ds.length, rest)
  | [], value, count, _, _ => takeDigits_of_not hrest limit value count
  | c :: ds, value, count, hds, hfits => by
    obtain ⟨hc, hds⟩ := List.forall_mem_cons.1 hds
    rw [Text.ofDigitChars_cons] at hfits ⊢
    have hlt : value * 10 + (c.toNat - 48) < limit := Nat.lt_of_le_of_lt (Text.le_ofDigitChars ds _) hfits
    rw [List.cons_append, takeDigits, digit?_eq_some.2 ⟨hc, rfl⟩]
    dsimp only
    rw [if_pos hlt, takeDigits_append hrest (count + 1) hds hfits, List.length_cons, Nat.add_assoc, Nat.add_comm 1]

theorem exists_takeDigits {limit : Nat} : ∀ {value count value' count' : Nat} {s rest : List Char}, value < limit →
    takeDigits limit value count s = (value', count', rest) →
    value' < limit ∧ ∃ ds, (∀ d ∈ ds, d.isDigit = true) ∧ s = ds ++ rest ∧ Nat.ofDigitChars 10 ds value = value'
  | value, _, _, _, [], _, hvalue, h => by
    cases h
    exact ⟨hvalue, [], List.forall_mem_nil _, rfl, rfl⟩
  | value, _, _, _, c :: s, _, hvalue, h => by
    rw [takeDigits] at h
    split at h
    · rename_i d hd
      obtain ⟨hc, rfl⟩ := digit?_eq_some.1 hd
      split at h
      · rename_i hfits
        obtain ⟨hlt, ds, hds, rfl, hnumber⟩ := exists_takeDigits hfits h
        exact ⟨hlt, c :: ds, List.forall_mem_cons.2 ⟨hc, hds⟩, rfl, (Text.ofDigitChars_cons c ds value).trans hnumber⟩
      · cases h
        exact ⟨hvalue, [], List.forall_mem_nil _, rfl, rfl⟩
    · cases h
      exact ⟨hvalue, [], List.forall_mem_nil _, rfl, rfl⟩

/-! ## What is no whole number -/

theorem finishDouble_double {negative : Bool} {significand : Nat} {exponent : Int} {s rest : List Char} {n : Number}
    (h : finishDouble negative significand exponent s = .ok (n, rest)) : ∃ x, n = .double x := by
  unfold finishDouble at h
  split at h
  · cases h
    exact ⟨_, rfl⟩
  · cases h

theorem readExponent_double {negative : Bool} {significand : Nat} {start : Int} {s rest : List Char} {n : Number}
    (h : readExponent negative significand start s = .ok (n, rest)) : ∃ x, n = .double x := by
  unfold readExponent at h
  split at h
  dsimp only at h
  split at h
  · cases h
  split at h
  · cases h
  split at h
  · split at h
    · cases h
    · cases h
      exact ⟨_, rfl⟩
  · exact finishDouble_double h

theorem readTail_double {negative : Bool} {significand : Nat} {exponent : Int} {s rest : List Char} {n : Number}
    (h : readTail negative significand exponent s = .ok (n, rest)) : ∃ x, n = .double x := by
  unfold readTail at h
  split at h
  · split at h
    · exact readExponent_double h
    · exact finishDouble_double h
  · exact finishDouble_double h

theorem readFraction_double {negative : Bool} {significand : Nat} {exponent : Int} {s rest : List Char} {n : Number}
    (h : readFraction negative significand exponent s = .ok (n, rest)) : ∃ x, n = .double x := by
  unfold readFraction at h
  dsimp only at h
  split at h
  · exact readTail_double h
  split at h
  · split at h <;> cases h
  · exact readTail_double h

/-- **A whole number ends with its digits**, none of which was dropped, and it is below zero just when it has a sign. -/
theorem readAfterWhole_integer {negative : Bool} {significand dropped : Nat} {s rest : List Char} {m : Int}
    (h : readAfterWhole negative significand dropped s = .ok (.integer m, rest)) :
    dropped = 0 ∧ rest = s ∧ ((negative = false ∧ m = significand) ∨ (negative = true ∧ m < 0)) := by
  unfold readAfterWhole at h
  split at h
  · obtain ⟨x, hx⟩ := readFraction_double h
    cases hx
  · obtain ⟨x, hx⟩ := readExponent_double h
    cases hx
  · obtain ⟨x, hx⟩ := readExponent_double h
    cases hx
  · split at h
    · obtain ⟨x, hx⟩ := finishDouble_double h
      cases hx
    rename_i hdropped
    split at h
    · rename_i hpositive
      cases h
      exact ⟨by omega, rfl, .inl ⟨by simpa using hpositive, rfl⟩⟩
    rename_i hnegative
    split at h
    · obtain ⟨x, hx⟩ := finishDouble_double h
      cases hx
    · rename_i hsignificand
      cases h
      exact ⟨by omega, rfl, .inr ⟨by simpa using hnegative, by omega⟩⟩

/-! ## Whole numbers -/

/-- **A number without a sign is whole** only when it is the decimal digits of what it is read as, which has 64 bits. -/
theorem toDigits_of_readWhole {s rest : List Char} {m : Int} (h : readWhole false s = .ok (.integer m, rest)) :
    ∃ n : Nat, m = n ∧ n < UInt64.size ∧ s = Nat.toDigits 10 n ++ rest := by
  unfold readWhole at h
  split at h
  · cases h
  rename_i c t
  split at h
  · cases h
  · rename_i hc
    split at h
    · cases h
    obtain ⟨-, rfl, ⟨-, rfl⟩ | ⟨hsign, -⟩⟩ := readAfterWhole_integer h
    · rw [digit?_eq_zero.1 hc]
      exact ⟨0, rfl, by decide, rfl⟩
    · cases hsign
  · rename_i d hne hc
    obtain ⟨hdigit, rfl⟩ := digit?_eq_some.1 hc
    have hpos : 0 < c.toNat - 48 := Nat.pos_of_ne_zero hne
    have hsmall : c.toNat - 48 < UInt64.size := by
      have := (Text.code_of_isDigit.1 hdigit).2
      exact Nat.lt_of_le_of_lt (Nat.sub_le_sub_right this 48) (by decide)
    cases htaken : takeDigits UInt64.size (c.toNat - 48) 1 t with
    | mk value left =>
      obtain ⟨count, left⟩ := left
      rw [htaken] at h
      obtain ⟨hlt, ds, hds, rfl, rfl⟩ := exists_takeDigits hsmall htaken
      obtain ⟨hdropped, rfl, ⟨-, rfl⟩ | ⟨hsign, -⟩⟩ := readAfterWhole_integer h
      · -- as many characters are left over as before more digits were looked for, so there were no more
        have hleft : skipDigits left = left :=
          (skipDigits_suffix left).eq_of_length (Nat.le_antisymm (skipDigits_suffix left).length_le (by omega))
        refine ⟨_, rfl, hlt, ?_⟩
        rw [hleft, ← Text.toDigits_append hpos hds, Text.toDigits_of_isDigit hdigit]
        rfl
      · cases hsign

theorem negative_of_readWhole {s rest : List Char} {m : Int} (h : readWhole true s = .ok (.integer m, rest)) : m < 0 := by
  unfold readWhole at h
  split at h
  · cases h
  split at h
  · cases h
  · split at h
    · cases h
    · obtain ⟨-, -, ⟨hsign, -⟩ | ⟨-, hm⟩⟩ := readAfterWhole_integer h
      · cases hsign
      · exact hm
  · obtain ⟨-, -, ⟨hsign, -⟩ | ⟨-, hm⟩⟩ := readAfterWhole_integer h
    · cases hsign
    · exact hm

/-- **A whole number that is not below zero is read where its decimal digits stand.** -/
theorem toDigits_of_readNumber {s rest : List Char} {m : Int} (h : readNumber s = .ok (.integer m, rest)) (hm : 0 ≤ m) :
    ∃ n : Nat, m = n ∧ n < UInt64.size ∧ s = Nat.toDigits 10 n ++ rest := by
  unfold readNumber at h
  split at h
  · exact absurd (negative_of_readWhole h) (Int.not_lt.2 hm)
  · exact toDigits_of_readWhole h

theorem readAfterWhole_ends (significand : Nat) {rest : List Char} (hrest : Ends rest) :
    readAfterWhole false significand 0 rest = .ok (.integer significand, rest) := by
  unfold readAfterWhole
  split
  · exact absurd rfl (stops_end _ (hrest _ rfl)).2.1
  · exact absurd rfl (stops_end _ (hrest _ rfl)).2.2.1
  · exact absurd rfl (stops_end _ (hrest _ rfl)).2.2.2
  · rfl

theorem readWhole_toDigits {n : Nat} (hn : n < UInt64.size) {rest : List Char} (hrest : Ends rest) :
    readWhole false (Nat.toDigits 10 n ++ rest) = .ok (.integer n, rest) := by
  have hstarts : startsWithDigit rest = false := hrest.startsWithDigit
  rcases Nat.eq_zero_or_pos n with rfl | hpos
  · rw [Nat.toDigits_zero, List.singleton_append, readWhole, digit?_eq_zero.2 rfl]
    dsimp only
    rw [startsWithDigit] at hstarts
    rw [hstarts]
    exact readAfterWhole_ends 0 hrest
  · have hdigits : ∀ c ∈ Nat.toDigits 10 n, c.isDigit = true := fun _ => Text.isDigit_of_mem_toDigits
    have hvalue : Nat.ofDigitChars 10 (Nat.toDigits 10 n) 0 = n := Nat.ofDigitChars_ten_toDigits
    have hzero := Text.toDigits_ne_zero_cons hpos
    cases hn' : Nat.toDigits 10 n with
    | nil => exact absurd hn' Nat.toDigits_ne_nil
    | cons c ds =>
      rw [hn'] at hdigits hvalue hzero
      obtain ⟨hc, hds⟩ := List.forall_mem_cons.1 hdigits
      rw [Text.ofDigitChars_cons, Nat.zero_mul, Nat.zero_add] at hvalue
      have hne : c.toNat - 48 ≠ 0 := fun hz =>
        hzero ds (by rw [digit?_eq_zero.1 (digit?_eq_some.2 ⟨hc, hz⟩)])
      rw [List.cons_append, readWhole, digit?_eq_some.2 ⟨hc, rfl⟩]
      split
      · rename_i hnone
        cases hnone
      · rename_i hz
        exact absurd (Option.some.inj hz) hne
      · rename_i d _ hd
        cases hd
        rw [takeDigits_append hstarts 1 hds (by rwa [hvalue]), hvalue]
        dsimp only
        rw [skipDigits_of_not hstarts, Nat.sub_self]
        exact readAfterWhole_ends n hrest

/-- **Decimal digits are read as their number**, if it has 64 bits and the digits do not go on. -/
theorem readNumber_toDigits {n : Nat} (hn : n < UInt64.size) {rest : List Char} (hrest : Ends rest) :
    readNumber (Nat.toDigits 10 n ++ rest) = .ok (.integer n, rest) := by
  rw [readNumber_of_ne, readWhole_toDigits hn hrest]
  intro t ht
  cases hn' : Nat.toDigits 10 n with
  | nil => exact Nat.toDigits_ne_nil hn'
  | cons c ds =>
    have hc : c.isDigit = true := Text.isDigit_of_mem_toDigits (n := n) (hn' ▸ List.mem_cons_self)
    rw [hn', List.cons_append] at ht
    cases ht
    cases hc

/-! ## Natural numbers as data -/

theorem natural_eq_ok {n : Number} {x : UInt64} :
    natural n = .ok x ↔ ∃ m : Int, n = .integer m ∧ 0 ≤ m ∧ UInt64.ofNat m.toNat = x := by
  cases n with
  | double value => simp [natural]
  | integer m => by_cases hm : 0 ≤ m <;> simp [natural, hm]

theorem take_natural (x : UInt64) : Form.natural.take (.number (.integer x.toNat)) = .ok x :=
  natural_eq_ok.2 ⟨x.toNat, rfl, Int.natCast_nonneg _, by rw [Int.toNat_natCast, UInt64.ofNat_toNat]⟩

theorem natural_read {s r : List Char} {x : UInt64} :
    Form.natural.read s = .ok (x, r) ↔
      ∃ c t n, skipSpace s = c :: t ∧ (c = '-' ∨ (digit? c).isSome) ∧ readNumber (c :: t) = .ok (n, r) ∧
        natural n = .ok x := by
  unfold Form.natural
  dsimp only
  constructor
  · intro h
    split at h
    · cases h
    rename_i c t hs
    split at h
    · rename_i hc
      split at h
      · cases h
      · rename_i n u hn
        obtain ⟨y, hy, heq⟩ := map_eq_ok.1 h
        cases heq
        exact ⟨c, t, n, hs, hc, hn, mapError_eq_ok.1 hy⟩
    · cases h
  · rintro ⟨c, t, n, hs, hc, hn, hx⟩
    rw [hs]
    dsimp only
    rw [if_pos hc, hn]
    exact map_eq_ok.2 ⟨x, mapError_eq_ok.2 hx, rfl⟩

theorem lawful_natural : Form.natural.Lawful where
  follows {_ s _ rest x r} h := by
    rw [natural_read]
    cases h with
    | number hs hc hn =>
      constructor
      · rintro ⟨c, t, n, hs', -, hn', hx⟩
        cases hs.symm.trans hs'
        cases hn.symm.trans hn'
        exact ⟨hx, rfl⟩
      · rintro ⟨hx, rfl⟩
        exact ⟨_, _, _, hs, hc, hn, hx⟩
    | null hs _ | yes hs _ | no hs _ | string hs _ | array hs _ | object hs _ =>
      -- nothing else starts like a number
      refine iff_of_false ?_ fun h => by cases h.1
      rintro ⟨c, t, n, hs', hc, -⟩
      cases hs.symm.trans hs'
      revert hc
      decide
  passes h := by
    obtain ⟨c, t, n, hs, hc, hn, -⟩ := natural_read.1 h
    exact .number hs hc (skipNumber_of_readNumber hn)
  steady {v x} h := by cases v <;> exact h
  settled {v x} _ h := by cases v <;> exact ⟨x, h⟩

theorem compactChars_natural (x : UInt64) : compactChars (.number (.integer x.toNat)) = Nat.toDigits 10 x.toNat := by
  rw [compactChars]
  exact Nat.toList_repr

/-- **What is written of a natural number spells it**, if its digits do not go on. -/
theorem spells_natural (depth : Nat) (x : UInt64) {rest : List Char} (hrest : Ends rest) :
    Spells depth (compactChars (.number (.integer x.toNat)) ++ rest) (.number (.integer x.toNat)) rest := by
  rw [compactChars_natural]
  cases hdigits : Nat.toDigits 10 x.toNat with
  | nil => exact absurd hdigits Nat.toDigits_ne_nil
  | cons c ds =>
    have hread := readNumber_toDigits x.toNat_lt_size hrest
    have hc : (digit? c).isSome := by
      rw [digit?_eq_some.2 ⟨Text.isDigit_of_mem_toDigits (n := x.toNat) (hdigits ▸ List.mem_cons_self), rfl⟩]
      rfl
    rw [hdigits] at hread
    exact .number (skipSpace_of_not (starts_ne (c := c) (by rw [starts, hc, Bool.or_true])).1 _) (.inr hc) hread

end Json
end SinkReporter
