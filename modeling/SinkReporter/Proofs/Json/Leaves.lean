import SinkReporter.Json.Container
import SinkReporter.Proofs.Outcome
/-!
# Proofs.Json.Leaves — what the readers of leaves leave

Each reader leaves a suffix of what it was given.  Strings and numbers that are read for what they stand for are passed
over as well, with the same rest (`skipString_of_readString`, `skipNumber_of_readNumber`).  What a loop over the parts of a
container does is said for one turn of it (`foldItems_eq_ok`, `foldMembers_eq_ok`).
-/
namespace SinkReporter
namespace Json

/-! ## White space, literals and what stands between parts -/

theorem skipSpace_suffix (s : List Char) : skipSpace s <:+ s := List.dropWhile_suffix _

theorem isSpace_of_skipSpace {s t : List Char} {c : Char} (h : skipSpace s = c :: t) : isSpace c = false := by
  have := List.head?_dropWhile_not isSpace s
  rw [skipSpace] at h
  rw [h] at this
  simpa using this

theorem skipSpace_of_not {c : Char} (h : isSpace c = false) (t : List Char) : skipSpace (c :: t) = c :: t := by
  rw [skipSpace, List.dropWhile_cons_of_neg (by rw [h]; simp)]

theorem skipSpace_skipSpace (s : List Char) : skipSpace (skipSpace s) = skipSpace s := by
  cases h : skipSpace s with
  | nil => rfl
  | cons c t => rw [skipSpace_of_not (isSpace_of_skipSpace h)]

theorem skipSpace_append (blank : List Char) (h : blank.all isSpace) (s : List Char) :
    skipSpace (blank ++ s) = skipSpace s := by
  rw [skipSpace, List.dropWhile_append_of_pos (List.all_eq_true.1 h)]
  rfl

theorem suffix_of_skipSpace {s t : List Char} {c : Char} (h : skipSpace s = c :: t) : c :: t <:+ s :=
  h ▸ skipSpace_suffix s

theorem expect_suffix {word s rest : List Char} (h : expect word s = .ok rest) : rest <:+ s := by
  induction word generalizing s with
  | nil => cases h; exact List.suffix_rfl
  | cons c word ih =>
    cases s with
    | nil => cases h
    | cons d s =>
      rw [expect] at h
      split at h
      · exact (ih h).trans (List.suffix_cons d s)
      · cases h

theorem expect_append (word s : List Char) : expect word (word ++ s) = .ok s := by
  induction word with
  | nil => rfl
  | cons c word ih => rw [List.cons_append, expect, if_pos rfl, ih]

theorem expectColon_eq_ok {s rest : List Char} : expectColon s = .ok rest ↔ skipSpace s = ':' :: rest := by
  unfold expectColon
  split
  · rename_i h
    rw [h]
    simp
  · rename_i c t h
    rw [h]
    split
    · rename_i hc
      rw [hc]
      simp
    · rename_i hc
      simp [hc]

/-! ## Numbers -/

def startsWithDigit (s : List Char) : Bool := s.head?.any fun c => (digit? c).isSome

theorem skipDigits_suffix (s : List Char) : skipDigits s <:+ s := List.dropWhile_suffix _

theorem skipDigits_of_not {s : List Char} (h : startsWithDigit s = false) : skipDigits s = s := by
  cases s with
  | nil => rfl
  | cons c rest =>
    rw [skipDigits, List.dropWhile_cons_of_neg]
    rw [startsWithDigit] at h
    simpa using h

theorem skipDigits_takeDigits (limit : Nat) : ∀ (value count : Nat) (s : List Char),
    skipDigits (takeDigits limit value count s).2.2 = skipDigits s
  | _, _, [] => rfl
  | value, count, c :: rest => by
    rw [takeDigits]
    split
    · rename_i d hd
      split
      · rw [skipDigits_takeDigits limit _ _ rest]
        conv => rhs; rw [skipDigits, List.dropWhile_cons_of_pos (by simp [hd])]
        rfl
      · rfl
    · rfl

theorem takeDigits_of_not {s : List Char} (h : startsWithDigit s = false) (limit value count : Nat) :
    takeDigits limit value count s = (value, count, s) := by
  cases s with
  | nil => rfl
  | cons c rest =>
    have hc : digit? c = none := by simpa [startsWithDigit] using h
    rw [takeDigits, hc]

theorem finishDouble_rest {negative : Bool} {significand : Nat} {exponent : Int} {s rest : List Char} {n : Number}
    (h : finishDouble negative significand exponent s = .ok (n, rest)) : rest = s := by
  unfold finishDouble at h
  split at h
  · cases h; rfl
  · cases h

theorem skipDigits_of_readPower {negative down : Bool} {significand : Nat} {start : Int} {d : Nat} {s rest : List Char}
    {n : Number}
    (h : (let (power, _, rest) := takeDigits (UInt32.size / 2) d 1 s
      if rest.head?.any fun c => (digit? c).isSome then
        if significand ≠ 0 ∧ !down then .error .malformed
        else .ok (.double (if negative then -0.0 else 0.0), skipDigits rest)
      else finishDouble negative significand (if down then start - power else start + power) rest) =
        (.ok (n, rest) : Reading Number)) : rest = skipDigits s := by
  have ht := skipDigits_takeDigits (UInt32.size / 2) d 1 s
  dsimp only at h
  generalize takeDigits (UInt32.size / 2) d 1 s = taken at h ht
  obtain ⟨power, count, left⟩ := taken
  dsimp only at h ht
  split at h
  · split at h
    · cases h
    · cases h
      exact ht
  · rename_i hd
    rw [finishDouble_rest h, ← ht, skipDigits_of_not (by simpa [startsWithDigit] using hd)]

theorem skipExponent_of_readExponent {negative : Bool} {significand : Nat} {start : Int} {s rest : List Char} {n : Number}
    (h : readExponent negative significand start s = .ok (n, rest)) : skipExponent s = .ok rest := by
  unfold readExponent at h
  unfold skipExponent
  split at h
  rename_i down t hsign
  split at hsign
  all_goals
    cases hsign
    dsimp only at h ⊢
    split at h
    · cases h
    split at h
    · cases h
    rename_i d hd
    rw [skipDigits_of_readPower h, hd]
    rfl

theorem skipTail_of_readTail {negative : Bool} {significand : Nat} {exponent : Int} {s rest : List Char} {n : Number}
    (h : readTail negative significand exponent s = .ok (n, rest)) : skipTail s = .ok rest := by
  unfold readTail at h
  split at h
  · rename_i c t
    split at h
    · rename_i hc
      rcases hc with rfl | rfl
      · exact skipExponent_of_readExponent h
      · exact skipExponent_of_readExponent h
    · rename_i hc
      rw [finishDouble_rest h]
      unfold skipTail
      split
      · rename_i heq
        cases heq
        exact absurd (.inl rfl) hc
      · rename_i heq
        cases heq
        exact absurd (.inr rfl) hc
      · rfl
  · rw [finishDouble_rest h]
    rfl

theorem skipTail_of_readFraction {negative : Bool} {significand : Nat} {exponent : Int} {s rest : List Char} {n : Number}
    (h : readFraction negative significand exponent s = .ok (n, rest)) :
    startsWithDigit s = true ∧ skipTail (skipDigits s) = .ok rest := by
  have hs : startsWithDigit s = true := by
    refine Decidable.byContradiction fun hs => ?_
    rw [Bool.not_eq_true] at hs
    unfold readFraction at h
    rw [takeDigits_of_not hs] at h
    dsimp only at h
    rw [if_neg (by rw [startsWithDigit] at hs; rw [hs]; simp), if_pos rfl] at h
    split at h <;> cases h
  refine ⟨hs, ?_⟩
  unfold readFraction at h
  have ht := skipDigits_takeDigits UInt64.size significand 0 s
  generalize takeDigits UInt64.size significand 0 s = taken at h ht
  obtain ⟨value, count, left⟩ := taken
  dsimp only at h ht
  split at h
  · rw [← ht]
    exact skipTail_of_readTail h
  · rename_i hd
    split at h
    · split at h <;> cases h
    · rw [← ht, skipDigits_of_not (by simpa [startsWithDigit] using hd)]
      exact skipTail_of_readTail h

def skipAfterWhole (s : List Char) : Except Fault (List Char) :=
  match s with
  | '.' :: after => if startsWithDigit after then skipTail (skipDigits after) else .error .malformed
  | after => skipTail after

theorem skipAfterWhole_of_read {negative : Bool} {significand dropped : Nat} {s rest : List Char} {n : Number}
    (h : readAfterWhole negative significand dropped s = .ok (n, rest)) : skipAfterWhole s = .ok rest := by
  unfold readAfterWhole at h
  split at h
  · obtain ⟨hs, ht⟩ := skipTail_of_readFraction h
    rw [skipAfterWhole, if_pos hs, ht]
  · exact skipExponent_of_readExponent h
  · exact skipExponent_of_readExponent h
  · rename_i h1 h2 h3
    have hrest : rest = s := by
      split at h
      · exact finishDouble_rest h
      split at h
      · cases h; rfl
      split at h
      · exact finishDouble_rest h
      · cases h; rfl
    have hskip : skipAfterWhole s = skipTail s := by
      unfold skipAfterWhole
      split
      · exact absurd rfl (h1 _)
      · rfl
    rw [hskip, hrest]
    unfold skipTail
    split
    · exact absurd rfl (h2 _)
    · exact absurd rfl (h3 _)
    · rfl

def skipWhole (s : List Char) : Except Fault (List Char) :=
  match s with
  | [] => .error .malformed
  | c :: rest =>
    match digit? c with
    | none => .error .malformed
    | some d => if d = 0 ∧ startsWithDigit rest then .error .malformed else skipAfterWhole (skipDigits rest)

theorem skipNumber_eq (s : List Char) :
    skipNumber s = skipWhole (match s with
      | '-' :: rest => rest
      | _ => s) := rfl

theorem skipWhole_of_readWhole {negative : Bool} {s rest : List Char} {n : Number}
    (h : readWhole negative s = .ok (n, rest)) : skipWhole s = .ok rest := by
  unfold readWhole at h
  split at h
  · cases h
  rename_i c t
  rw [skipWhole]
  split at h
  · cases h
  · rename_i hd
    split at h
    · cases h
    rename_i hz
    have hz : startsWithDigit t = false := by simpa [startsWithDigit] using hz
    rw [hd]
    dsimp only
    rw [if_neg (by rw [hz]; simp), skipDigits_of_not hz]
    exact skipAfterWhole_of_read h
  · rename_i d hne hd
    rw [hd]
    dsimp only at h ⊢
    rw [if_neg fun hz => hne hz.1]
    rw [skipDigits_takeDigits] at h
    exact skipAfterWhole_of_read h

theorem skipNumber_of_ne {s : List Char} (h : ∀ t, s ≠ '-' :: t) : skipNumber s = skipWhole s := by
  rw [skipNumber_eq]
  split
  · exact absurd rfl (h _)
  · rfl

theorem readNumber_of_ne {s : List Char} (h : ∀ t, s ≠ '-' :: t) : readNumber s = readWhole false s := by
  unfold readNumber
  split
  · exact absurd rfl (h _)
  · rfl

/-- **A number that is read is passed over.** -/
theorem skipNumber_of_readNumber {s rest : List Char} {n : Number} (h : readNumber s = .ok (n, rest)) :
    skipNumber s = .ok rest := by
  by_cases hs : ∃ t, s = '-' :: t
  · obtain ⟨t, rfl⟩ := hs
    rw [skipNumber_eq]
    exact skipWhole_of_readWhole h
  · have hne : ∀ t, s ≠ '-' :: t := fun t ht => hs ⟨t, ht⟩
    rw [readNumber_of_ne hne] at h
    rw [skipNumber_of_ne hne]
    exact skipWhole_of_readWhole h

theorem skipPower_suffix {s rest : List Char}
    (h : (match s with
      | [] => (.error .malformed : Except Fault (List Char))
      | c :: rest => if (digit? c).isSome then .ok (skipDigits rest) else .error .malformed) = .ok rest) :
    rest <:+ s := by
  split at h
  · cases h
  · split at h
    · cases h
      exact (skipDigits_suffix _).trans (List.suffix_cons _ _)
    · cases h

theorem skipExponent_suffix {s rest : List Char} (h : skipExponent s = .ok rest) : rest <:+ s := by
  unfold skipExponent at h
  split at h
  · exact (skipPower_suffix h).trans (List.suffix_cons _ _)
  · exact (skipPower_suffix h).trans (List.suffix_cons _ _)
  · exact skipPower_suffix h

theorem skipTail_suffix {s rest : List Char} (h : skipTail s = .ok rest) : rest <:+ s := by
  unfold skipTail at h
  split at h
  · exact (skipExponent_suffix h).trans (List.suffix_cons _ _)
  · exact (skipExponent_suffix h).trans (List.suffix_cons _ _)
  · cases h; exact List.suffix_rfl

theorem skipAfterWhole_suffix {s rest : List Char} (h : skipAfterWhole s = .ok rest) : rest <:+ s := by
  unfold skipAfterWhole at h
  split at h
  · split at h
    · exact ((skipTail_suffix h).trans (skipDigits_suffix _)).trans (List.suffix_cons _ _)
    · cases h
  · exact skipTail_suffix h

theorem skipWhole_suffix {s rest : List Char} (h : skipWhole s = .ok rest) : ∃ c t, s = c :: t ∧ rest <:+ t := by
  unfold skipWhole at h
  split at h
  · cases h
  rename_i c t
  split at h
  · cases h
  split at h
  · cases h
  · exact ⟨c, t, rfl, (skipAfterWhole_suffix h).trans (skipDigits_suffix t)⟩

theorem skipNumber_suffix {c : Char} {t rest : List Char} (h : skipNumber (c :: t) = .ok rest) : rest <:+ t := by
  rw [skipNumber_eq] at h
  obtain ⟨d, u, hs, hrest⟩ := skipWhole_suffix h
  split at hs
  · rename_i heq
    cases heq
    rw [hs]
    exact hrest.trans (List.suffix_cons d u)
  · cases hs
    exact hrest

/-! ## Strings -/

/-- Where a reader that passes over a string stands when one that reads it stands at the given state: the first half of a
pair is like any other escape. -/
def StringState.skipState : StringState → SkipState
  | .plain => .plain
  | .escape => .escape
  | .digits left _ _ => .digits left
  | .afterHigh _ => .plain
  | .afterHighEscape _ => .escape

theorem escape?_u : escape? 'u' = none := by decide

theorem skipChars_of_readChars {state : StringState} {acc s rest : List Char} {x : String}
    (h : readChars state acc s = .ok (x, rest)) : skipChars state.skipState s = .ok rest := by
  fun_induction readChars state acc s <;> simp_all [StringState.skipState, skipChars, escape?_u]

/-- **A string that is read is passed over.** -/
theorem skipString_of_readString {s rest : List Char} {x : String} (h : readString s = .ok (x, rest)) :
    skipString s = .ok rest := skipChars_of_readChars h

theorem skipChars_suffix {state : SkipState} {s rest : List Char} (h : skipChars state s = .ok rest) : rest <:+ s := by
  fun_induction skipChars state s <;> simp_all [List.suffix_cons_iff]

theorem skipString_suffix {s rest : List Char} (h : skipString s = .ok rest) : rest <:+ s := skipChars_suffix h

theorem readString_suffix {s rest : List Char} {x : String} (h : readString s = .ok (x, rest)) : rest <:+ s :=
  skipString_suffix (skipString_of_readString h)

/-! ## The parts of a container -/

theorem nextItem_done_iff {first : Bool} {s t : List Char} :
    nextItem first s = .ok (.done t) ↔ skipSpace s = ']' :: t := by
  unfold nextItem
  split
  · rename_i h
    rw [h]
    simp
  rename_i c rest h
  rw [h]
  split
  · rename_i hc
    rw [hc]
    simp
  rename_i hc
  split
  · simp [hc]
  split
  · split
    · simp [hc]
    · split <;> simp [hc]
  · simp [hc]

theorem nextItem_first_iff {s t : List Char} :
    nextItem true s = .ok (.part t) ↔ ∃ c u, t = c :: u ∧ skipSpace s = t ∧ c ≠ ']' := by
  unfold nextItem
  split
  · rename_i h
    rw [h]
    refine ⟨(fun h => by cases h), ?_⟩
    rintro ⟨c, u, rfl, h, -⟩
    cases h
  rename_i c rest h
  rw [h]
  split
  · rename_i hc
    subst hc
    simp only [reduceCtorEq, Except.ok.injEq, false_iff, not_exists, not_and]
    rintro d u rfl heq
    cases heq
    exact fun hne => hne rfl
  · rename_i hc
    rw [if_pos rfl]
    constructor
    · intro heq
      cases heq
      exact ⟨c, rest, rfl, rfl, hc⟩
    · rintro ⟨d, u, rfl, heq, -⟩
      rw [heq]

theorem nextItem_later_iff {s t : List Char} :
    nextItem false s = .ok (.part t) ↔
      ∃ c u v, t = c :: u ∧ skipSpace s = ',' :: v ∧ skipSpace v = t ∧ c ≠ ']' := by
  unfold nextItem
  split
  · rename_i h
    rw [h]
    simp
  rename_i c rest h
  rw [h]
  split
  · rename_i hc
    subst hc
    simp
  rw [if_neg Bool.false_ne_true]
  split
  · rename_i hc
    subst hc
    split
    · rename_i h'
      simp only [reduceCtorEq, false_iff, not_exists, not_and]
      rintro d u v rfl heq hv
      cases heq
      rw [h'] at hv
      cases hv
    rename_i d after h'
    split
    · rename_i hd
      subst hd
      simp only [reduceCtorEq, false_iff, not_exists, not_and]
      rintro d u v rfl heq hv
      cases heq
      rw [h'] at hv
      cases hv
      exact fun hne => hne rfl
    · rename_i hd
      constructor
      · intro heq
        cases heq
        exact ⟨d, after, rest, rfl, rfl, h', hd⟩
      · rintro ⟨e, u, v, rfl, heq, hv, -⟩
        cases heq
        rw [h'] at hv
        rw [hv]
  · rename_i hc
    simp [hc]

theorem nextMember_done_iff {first : Bool} {s t : List Char} :
    nextMember first s = .ok (.done t) ↔ skipSpace s = '\x7d' :: t := by
  unfold nextMember
  split
  · rename_i h
    rw [h]
    simp
  rename_i c rest h
  rw [h]
  split
  · rename_i hc
    rw [hc]
    simp
  rename_i hc
  split
  · split <;> simp [hc]
  split
  · split
    · simp [hc]
    · split <;> simp [hc]
  · simp [hc]

theorem nextMember_first_iff {s t : List Char} : nextMember true s = .ok (.part t) ↔ skipSpace s = '"' :: t := by
  unfold nextMember
  split
  · rename_i h
    rw [h]
    simp
  rename_i c rest h
  rw [h]
  split
  · rename_i hc
    subst hc
    simp
  rw [if_pos rfl]
  split
  · rename_i hc
    subst hc
    simp
  · rename_i hc
    simp [hc]

theorem nextMember_later_iff {s t : List Char} :
    nextMember false s = .ok (.part t) ↔ ∃ v, skipSpace s = ',' :: v ∧ skipSpace v = '"' :: t := by
  unfold nextMember
  split
  · rename_i h
    rw [h]
    simp
  rename_i c rest h
  rw [h]
  split
  · rename_i hc
    subst hc
    simp
  rw [if_neg Bool.false_ne_true]
  split
  · rename_i hc
    subst hc
    split
    · rename_i h'
      simp [h']
    rename_i d after h'
    split
    · rename_i hd
      subst hd
      simp [h']
    · rename_i hd
      simp [h', hd]
  · rename_i hc
    simp [hc]

theorem nextItem_part_suffix {first : Bool} {s t : List Char} (h : nextItem first s = .ok (.part t)) : t <:+ s := by
  cases first with
  | true =>
    obtain ⟨c, u, rfl, hs, -⟩ := nextItem_first_iff.1 h
    exact suffix_of_skipSpace hs
  | false =>
    obtain ⟨c, u, v, rfl, hs, hv, -⟩ := nextItem_later_iff.1 h
    exact ((suffix_of_skipSpace hv).trans (List.suffix_cons ',' v)).trans (suffix_of_skipSpace hs)

theorem nextMember_part_suffix {first : Bool} {s t : List Char} (h : nextMember first s = .ok (.part t)) :
    '"' :: t <:+ s := by
  cases first with
  | true => exact suffix_of_skipSpace (nextMember_first_iff.1 h)
  | false =>
    obtain ⟨v, hs, hv⟩ := nextMember_later_iff.1 h
    exact ((suffix_of_skipSpace hv).trans (List.suffix_cons ',' v)).trans (suffix_of_skipSpace hs)

section

variable {σ : Type} {fuel : Nat} {first : Bool} {a b : σ} {s r : List Char}

/-- **One turn of the loop over items**: the array ends here, or there is another item. -/
theorem foldItems_eq_ok {step : σ → List Char → Reading σ} :
    foldItems step (fuel + 1) first a s = .ok (b, r) ↔
      (nextItem first s = .ok (.done r) ∧ a = b) ∨
      ∃ t c u, nextItem first s = .ok (.part t) ∧ step a t = .ok (c, u) ∧ foldItems step fuel false c u = .ok (b, r) := by
  rw [foldItems]
  constructor
  · intro h
    split at h
    · cases h
    · rename_i rest hn
      cases h
      exact .inl ⟨hn, rfl⟩
    · rename_i t hn
      split at h
      · cases h
      rename_i c u hstep
      exact .inr ⟨t, c, u, hn, hstep, h⟩
  · rintro (⟨hn, rfl⟩ | ⟨t, c, u, hn, hstep, hr⟩)
    · rw [hn]
    · rw [hn]
      dsimp only
      rw [hstep]
      exact hr

/-- **One turn of the loop over members.** -/
theorem foldMembers_eq_ok {step : String → σ → List Char → Reading σ} :
    foldMembers step (fuel + 1) first a s = .ok (b, r) ↔
      (nextMember first s = .ok (.done r) ∧ a = b) ∨
      ∃ t key u c w, nextMember first s = .ok (.part t) ∧ readString t = .ok (key, u) ∧ step key a u = .ok (c, w) ∧
        foldMembers step fuel false c w = .ok (b, r) := by
  rw [foldMembers]
  constructor
  · intro h
    split at h
    · cases h
    · rename_i rest hn
      cases h
      exact .inl ⟨hn, rfl⟩
    · rename_i t hn
      split at h
      · cases h
      rename_i key u hk
      split at h
      · cases h
      rename_i c w hstep
      exact .inr ⟨t, key, u, c, w, hn, hk, hstep, h⟩
  · rintro (⟨hn, rfl⟩ | ⟨t, key, u, c, w, hn, hk, hstep, hr⟩)
    · rw [hn]
    · rw [hn]
      dsimp only
      rw [hk]
      dsimp only
      rw [hstep]
      exact hr

end

end Json
end SinkReporter
