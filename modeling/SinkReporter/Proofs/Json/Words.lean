import SinkReporter.Proofs.Json.Written
/-!
# Proofs.Json.Words — numbers and strings as they are written

`NumberText` and `StringText` say what a number and a string look like, and nothing of what they stand for: a number may have
any size, and an escape may be half of a pair.  Such a word is what the skipping readers pass over.  What follows a string
does not matter (`StringText.readString_iff`), and a number ends where a container goes on or ends.
-/
namespace SinkReporter
namespace Json

/-! ## Numbers -/

inductive WholeText : List Char → Prop where
  | zero : WholeText ['0']
  | digits {c ds} : (digit? c).isSome → c ≠ '0' → (∀ d ∈ ds, (digit? d).isSome) → WholeText (c :: ds)

inductive FractionText : List Char → Prop where
  | none : FractionText []
  | digits {ds} : ds ≠ [] → (∀ d ∈ ds, (digit? d).isSome) → FractionText ('.' :: ds)

inductive PowerText : List Char → Prop where
  | none : PowerText []
  | digits {mark sign ds} : mark ∈ ['e', 'E'] → sign ∈ [[], ['+'], ['-']] → ds ≠ [] → (∀ d ∈ ds, (digit? d).isSome) →
      PowerText (mark :: (sign ++ ds))

/-- **A number as it is written**, of any size. -/
inductive NumberText : List Char → Prop where
  | mk {sign whole fraction power} : sign ∈ [[], ['-']] → WholeText whole → FractionText fraction → PowerText power →
      NumberText (sign ++ (whole ++ (fraction ++ power)))

theorem mem_stops_of_isSpace {c : Char} (h : isSpace c) : c ∈ stops := by
  simp only [isSpace, Bool.or_eq_true, decide_eq_true_eq] at h
  rcases h with ((rfl | rfl) | rfl) | rfl <;> decide

theorem Ends.append {blank rest : List Char} (hb : blank.all isSpace) (h : Ends rest) : Ends (blank ++ rest) := by
  cases blank with
  | nil => exact h
  | cons c blank =>
    rw [List.all_cons, Bool.and_eq_true] at hb
    exact .cons (mem_stops_of_isSpace hb.1) _

theorem Ends.blank {blank : List Char} (hb : blank.all isSpace) : Ends blank := by
  rw [← List.append_nil blank]
  exact .append hb .nil

theorem stops_end : ∀ c ∈ stops, (digit? c).isSome = false ∧ c ≠ '.' ∧ c ≠ 'e' ∧ c ≠ 'E' := by
  intro c hc
  simp only [stops, List.mem_cons, List.not_mem_nil, or_false] at hc
  rcases hc with rfl | rfl | rfl | rfl | rfl | rfl | rfl <;> decide

theorem Ends.startsWithDigit {rest : List Char} (h : Ends rest) : startsWithDigit rest = false := by
  cases rest with
  | nil => rfl
  | cons c rest => exact (stops_end c (h c rfl)).1

theorem skipDigits_append {ds : List Char} (hds : ∀ d ∈ ds, (digit? d).isSome) {s : List Char}
    (hs : startsWithDigit s = false) : skipDigits (ds ++ s) = s := by
  rw [skipDigits, List.dropWhile_append_of_pos hds]
  exact skipDigits_of_not hs

theorem exists_digits (s : List Char) : ∃ ds, (∀ d ∈ ds, (digit? d).isSome) ∧ s = ds ++ skipDigits s :=
  ⟨s.takeWhile fun c => (digit? c).isSome, List.all_eq_true.1 List.all_takeWhile, List.takeWhile_append_dropWhile.symm⟩

theorem skipExponent_append {sign ds : List Char} (hsign : sign ∈ [[], ['+'], ['-']]) (hne : ds ≠ [])
    (hds : ∀ d ∈ ds, (digit? d).isSome) {rest : List Char} (hr : Ends rest) :
    skipExponent (sign ++ (ds ++ rest)) = .ok rest := by
  obtain ⟨d, ds, rfl⟩ := List.exists_cons_of_ne_nil hne
  obtain ⟨hd, hds⟩ := List.forall_mem_cons.1 hds
  have hskip := skipDigits_append hds hr.startsWithDigit
  simp only [List.mem_cons, List.not_mem_nil, or_false] at hsign
  rcases hsign with rfl | rfl | rfl
  · have hplus : d ≠ '+' := by rintro rfl; revert hd; decide
    have hminus : d ≠ '-' := by rintro rfl; revert hd; decide
    simp [skipExponent, hplus, hminus, hd, hskip]
  · simp [skipExponent, hd, hskip]
  · simp [skipExponent, hd, hskip]

theorem exists_exponentDigits {s rest : List Char}
    (h : (match s with
      | [] => (.error .malformed : Except Fault (List Char))
      | c :: rest => if (digit? c).isSome then .ok (skipDigits rest) else .error .malformed) = .ok rest) :
    ∃ ds, ds ≠ [] ∧ (∀ d ∈ ds, (digit? d).isSome) ∧ s = ds ++ rest := by
  split at h
  · cases h
  rename_i c t
  split at h
  · rename_i hc
    cases h
    obtain ⟨ds, hds, ht⟩ := exists_digits t
    exact ⟨c :: ds, List.cons_ne_nil _ _, List.forall_mem_cons.2 ⟨hc, hds⟩, congrArg (c :: ·) ht⟩
  · cases h

theorem exists_exponent {s rest : List Char} (h : skipExponent s = .ok rest) :
    ∃ sign ds, sign ∈ [[], ['+'], ['-']] ∧ ds ≠ [] ∧ (∀ d ∈ ds, (digit? d).isSome) ∧ s = sign ++ (ds ++ rest) := by
  unfold skipExponent at h
  split at h
  · obtain ⟨ds, hne, hds, rfl⟩ := exists_exponentDigits h
    exact ⟨['+'], ds, by decide, hne, hds, rfl⟩
  · obtain ⟨ds, hne, hds, rfl⟩ := exists_exponentDigits h
    exact ⟨['-'], ds, by decide, hne, hds, rfl⟩
  · obtain ⟨ds, hne, hds, rfl⟩ := exists_exponentDigits h
    exact ⟨[], ds, by decide, hne, hds, rfl⟩

theorem skipTail_append {power : List Char} (h : PowerText power) {rest : List Char} (hr : Ends rest) :
    skipTail (power ++ rest) = .ok rest := by
  cases h with
  | none =>
    rw [List.nil_append]
    unfold skipTail
    split
    · exact absurd rfl (stops_end _ (hr _ rfl)).2.2.1
    · exact absurd rfl (stops_end _ (hr _ rfl)).2.2.2
    · rfl
  | digits hmark hsign hne hds =>
    have hexponent := skipExponent_append hsign hne hds hr
    simp only [List.mem_cons, List.not_mem_nil, or_false] at hmark
    rw [List.cons_append, List.append_assoc]
    rcases hmark with rfl | rfl
    · exact hexponent
    · exact hexponent

theorem exists_power {s rest : List Char} (h : skipTail s = .ok rest) : ∃ power, PowerText power ∧ s = power ++ rest := by
  unfold skipTail at h
  split at h
  · obtain ⟨sign, ds, hsign, hne, hds, rfl⟩ := exists_exponent h
    exact ⟨'e' :: (sign ++ ds), .digits (by decide) hsign hne hds, by simp⟩
  · obtain ⟨sign, ds, hsign, hne, hds, rfl⟩ := exists_exponent h
    exact ⟨'E' :: (sign ++ ds), .digits (by decide) hsign hne hds, by simp⟩
  · cases h
    exact ⟨[], .none, rfl⟩

theorem PowerText.head {power : List Char} (h : PowerText power) {rest : List Char} (hr : Ends rest) :
    startsWithDigit (power ++ rest) = false ∧ ∀ t, power ++ rest ≠ '.' :: t := by
  cases h with
  | none =>
    refine ⟨hr.startsWithDigit, ?_⟩
    rintro t rfl
    exact (stops_end _ (hr _ rfl)).2.1 rfl
  | digits hmark =>
    simp only [List.mem_cons, List.not_mem_nil, or_false] at hmark
    rcases hmark with rfl | rfl
    · exact ⟨rfl, by simp⟩
    · exact ⟨rfl, by simp⟩

theorem skipAfterWhole_append {fraction power : List Char} (hf : FractionText fraction) (hp : PowerText power)
    {rest : List Char} (hr : Ends rest) : skipAfterWhole (fraction ++ (power ++ rest)) = .ok rest := by
  obtain ⟨hdigit, hpoint⟩ := hp.head hr
  cases hf with
  | none =>
    rw [List.nil_append]
    unfold skipAfterWhole
    split
    · exact absurd ‹_› (hpoint _)
    · exact skipTail_append hp hr
  | digits hne hds =>
    obtain ⟨d, ds, rfl⟩ := List.exists_cons_of_ne_nil hne
    have hstarts : startsWithDigit ((d :: ds) ++ (power ++ rest)) = true := (List.forall_mem_cons.1 hds).1
    rw [List.cons_append, skipAfterWhole, if_pos hstarts, skipDigits_append hds hdigit]
    exact skipTail_append hp hr

theorem exists_afterWhole {s rest : List Char} (h : skipAfterWhole s = .ok rest) :
    ∃ fraction power, FractionText fraction ∧ PowerText power ∧ s = fraction ++ (power ++ rest) := by
  unfold skipAfterWhole at h
  split at h
  · rename_i after
    split at h
    · rename_i hstarts
      obtain ⟨power, hp, hs⟩ := exists_power h
      obtain ⟨ds, hds, hafter⟩ := exists_digits after
      refine ⟨'.' :: ds, power, .digits ?_ hds, hp, ?_⟩
      · rintro rfl
        -- then there would be no digit after the point
        rw [List.nil_append] at hafter
        cases after with
        | nil => cases hstarts
        | cons c u =>
          have hlength := congrArg List.length hafter
          have hskip : skipDigits (c :: u) = skipDigits u := List.dropWhile_cons_of_pos hstarts
          have := (skipDigits_suffix u).length_le
          rw [hskip, List.length_cons] at hlength
          omega
      · rw [List.cons_append, ← hs, ← hafter]
    · cases h
  · obtain ⟨power, hp, hs⟩ := exists_power h
    exact ⟨[], power, .none, hp, hs⟩

theorem FractionText.head {fraction power : List Char} (hf : FractionText fraction) (hp : PowerText power)
    {rest : List Char} (hr : Ends rest) : startsWithDigit (fraction ++ (power ++ rest)) = false := by
  cases hf with
  | none => exact (hp.head hr).1
  | digits => rfl

theorem digit?_eq_zero {c : Char} : digit? c = some 0 ↔ c = '0' := by
  constructor
  · intro h
    unfold digit? at h
    split at h
    · rename_i hc
      have hlow : '0'.toNat ≤ c.toNat := hc.1
      have hzero : c.toNat - '0'.toNat = 0 := Option.some.inj h
      have heq : c.toNat = '0'.toNat := by omega
      rw [← Char.ofNat_toNat c, heq, Char.ofNat_toNat]
    · cases h
  · rintro rfl
    decide

theorem skipWhole_append {whole fraction power : List Char} (hw : WholeText whole) (hf : FractionText fraction)
    (hp : PowerText power) {rest : List Char} (hr : Ends rest) :
    skipWhole (whole ++ (fraction ++ (power ++ rest))) = .ok rest := by
  have hdigit := hf.head hp hr
  have hafter := skipAfterWhole_append hf hp hr
  cases hw with
  | zero =>
    rw [List.singleton_append, skipWhole, digit?_eq_zero.2 rfl]
    dsimp only
    rw [if_neg (by rw [hdigit]; simp), skipDigits_of_not hdigit]
    exact hafter
  | @digits c ds hc hne hds =>
    obtain ⟨d, hd⟩ := Option.isSome_iff_exists.1 hc
    have hpos : d ≠ 0 := by
      rintro rfl
      exact hne (digit?_eq_zero.1 hd)
    rw [List.cons_append, skipWhole, hd]
    dsimp only
    rw [if_neg (fun hz => hpos hz.1), skipDigits_append hds hdigit]
    exact hafter

theorem exists_whole {s rest : List Char} (h : skipWhole s = .ok rest) :
    ∃ whole fraction power, WholeText whole ∧ FractionText fraction ∧ PowerText power ∧
      s = whole ++ (fraction ++ (power ++ rest)) := by
  unfold skipWhole at h
  split at h
  · cases h
  rename_i c t
  split at h
  · cases h
  rename_i d hd
  split at h
  · cases h
  rename_i hz
  obtain ⟨fraction, power, hf, hp, hs⟩ := exists_afterWhole h
  by_cases hzero : d = 0
  · subst hzero
    have hnot : startsWithDigit t = false := by simpa using hz
    rw [skipDigits_of_not hnot] at hs
    exact ⟨['0'], fraction, power, .zero, hf, hp, by rw [digit?_eq_zero.1 hd, hs]; rfl⟩
  · obtain ⟨ds, hds, ht⟩ := exists_digits t
    refine ⟨c :: ds, fraction, power, .digits (by rw [hd]; rfl) ?_ hds, hf, hp, ?_⟩
    · rintro rfl
      rw [digit?_eq_zero.2 rfl] at hd
      exact hzero (Option.some.inj hd).symm
    · rw [List.cons_append, ← hs, ← ht]

/-- **A number is passed over.** -/
theorem skipNumber_append {w : List Char} (h : NumberText w) {rest : List Char} (hr : Ends rest) :
    skipNumber (w ++ rest) = .ok rest := by
  obtain ⟨hsign, hw, hf, hp⟩ := h
  have hwhole := skipWhole_append hw hf hp hr
  simp only [List.mem_cons, List.not_mem_nil, or_false] at hsign
  simp only [List.append_assoc]
  rcases hsign with rfl | rfl
  · rw [List.nil_append, skipNumber_of_ne]
    · exact hwhole
    · intro t ht
      cases hw with
      | zero => cases ht
      | digits hc =>
        rw [List.cons_append, List.cons.injEq] at ht
        rw [ht.1] at hc
        revert hc
        decide
  · exact hwhole

theorem exists_numberText {s rest : List Char} (h : skipNumber s = .ok rest) : ∃ w, NumberText w ∧ s = w ++ rest := by
  by_cases hs : ∃ t, s = '-' :: t
  · obtain ⟨t, rfl⟩ := hs
    rw [skipNumber_eq] at h
    obtain ⟨whole, fraction, power, hw, hf, hp, rfl⟩ := exists_whole (s := t) h
    exact ⟨_, .mk (List.mem_cons_of_mem _ List.mem_cons_self) hw hf hp, by simp⟩
  · rw [skipNumber_of_ne (fun t ht => hs ⟨t, ht⟩)] at h
    obtain ⟨whole, fraction, power, hw, hf, hp, rfl⟩ := exists_whole h
    exact ⟨_, .mk List.mem_cons_self hw hf hp, by simp⟩

theorem NumberText.head {w : List Char} (h : NumberText w) : ∃ c t, w = c :: t ∧ (c = '-' ∨ (digit? c).isSome) := by
  obtain ⟨hsign, hw, -, -⟩ := h
  simp only [List.mem_cons, List.not_mem_nil, or_false] at hsign
  rcases hsign with rfl | rfl
  · cases hw with
    | zero => exact ⟨'0', _, rfl, .inr (by decide)⟩
    | digits hc => exact ⟨_, _, rfl, .inr hc⟩
  · exact ⟨'-', _, rfl, .inl rfl⟩

/-! ## Strings -/

/-- **A string as it is written**, from after its opening quote, up to and with its closing quote. -/
inductive StringText : List Char → Prop where
  | close : StringText ['"']
  | plain {c w} : c ≠ '"' → c ≠ '\\' → 0x20 ≤ c.toNat → StringText w → StringText (c :: w)
  | letter {c w} : (escape? c).isSome → StringText w → StringText ('\\' :: c :: w)
  | code {digits w} : digits.length = 4 → (∀ d ∈ digits, (Text.hex? d).isSome) → StringText w →
      StringText ('\\' :: 'u' :: (digits ++ w))

theorem skipChars_digits {left : Nat} {digits : List Char} (hl : digits.length = left + 1)
    (hd : ∀ d ∈ digits, (Text.hex? d).isSome) (s : List Char) :
    skipChars (.digits left) (digits ++ s) = skipChars .plain s := by
  induction left generalizing digits with
  | zero =>
    obtain ⟨d, rfl⟩ := List.length_eq_one_iff.1 hl
    obtain ⟨n, hn⟩ := Option.isSome_iff_exists.1 (hd d List.mem_cons_self)
    rw [List.singleton_append, skipChars, hn]
  | succ left ih =>
    obtain ⟨d, digits, rfl⟩ := List.exists_cons_of_length_eq_add_one hl
    obtain ⟨hd, hdigits⟩ := List.forall_mem_cons.1 hd
    obtain ⟨n, hn⟩ := Option.isSome_iff_exists.1 hd
    rw [List.cons_append, skipChars, hn]
    exact ih (Nat.succ.inj hl) hdigits

theorem exists_hexDigits {left : Nat} {s rest : List Char} (h : skipChars (.digits left) s = .ok rest) :
    ∃ digits t, digits.length = left + 1 ∧ (∀ d ∈ digits, (Text.hex? d).isSome) ∧ s = digits ++ t ∧
      skipChars .plain t = .ok rest := by
  induction left generalizing s with
  | zero =>
    cases s with
    | nil => cases h
    | cons c s =>
      rw [skipChars] at h
      split at h
      · cases h
      · rename_i hc
        exact ⟨[c], s, rfl, List.forall_mem_singleton.2 (by rw [hc]; rfl), rfl, h⟩
  | succ left ih =>
    cases s with
    | nil => cases h
    | cons c s =>
      rw [skipChars] at h
      split at h
      · cases h
      · rename_i hc
        obtain ⟨digits, t, hl, hd, rfl, ht⟩ := ih h
        exact ⟨c :: digits, t, congrArg (· + 1) hl, List.forall_mem_cons.2 ⟨by rw [hc]; rfl, hd⟩, rfl, ht⟩

theorem fourBytes_append {digits : List Char} (h : digits.length = 4) (s : List Char) : fourBytes (digits ++ s) = true := by
  match digits, h with
  | [a, b, c, d], _ => exact fourBytes_cons a b c d s

/-- **A string is passed over**, whatever follows. -/
theorem skipString_append {w : List Char} (h : StringText w) (rest : List Char) : skipString (w ++ rest) = .ok rest := by
  rw [skipString]
  induction h with
  | close => rfl
  | plain hq hb hc _ ih =>
    rw [List.cons_append, skipChars, if_neg hq, if_neg hb, if_neg (by omega)]
    exact ih
  | letter hc _ ih =>
    obtain ⟨e, he⟩ := Option.isSome_iff_exists.1 hc
    rw [List.cons_append, List.cons_append, skipChars, if_neg (by decide), if_pos rfl, skipChars, he]
    exact ih
  | code hl hd _ ih =>
    rw [List.cons_append, List.cons_append, List.append_assoc, skipChars, if_neg (by decide), if_pos rfl, skipChars,
      escape?_u]
    dsimp only
    rw [if_pos rfl, if_pos (fourBytes_append hl _), skipChars_digits hl hd]
    exact ih

theorem exists_stringText {s rest : List Char} (h : skipString s = .ok rest) : ∃ w, StringText w ∧ s = w ++ rest := by
  rw [skipString] at h
  -- an escape takes more than one character at a time
  induction hn : s.length using Nat.strongRecOn generalizing s with
  | ind n ih =>
    subst hn
    cases s with
    | nil => cases h
    | cons c s =>
      rw [skipChars] at h
      split at h
      · rename_i hc
        cases h
        exact ⟨['"'], .close, by rw [hc]; rfl⟩
      rename_i hq
      split at h
      · rename_i hb
        cases s with
        | nil => cases h
        | cons e s =>
          rw [skipChars] at h
          split at h
          · rename_i he
            obtain ⟨w, hw, rfl⟩ := ih s.length (by simp only [List.length_cons]; omega) h rfl
            exact ⟨'\\' :: e :: w, .letter (by rw [he]; rfl) hw, by rw [hb]; rfl⟩
          split at h
          · rename_i hu
            split at h
            · obtain ⟨digits, t, hl, hd, rfl, ht⟩ := exists_hexDigits h
              obtain ⟨w, hw, rfl⟩ := ih t.length (by simp only [List.length_cons, List.length_append]; omega) ht rfl
              exact ⟨'\\' :: 'u' :: (digits ++ w), .code hl hd hw, by rw [hb, hu]; simp⟩
            · cases h
          · cases h
      rename_i hb
      split at h
      · cases h
      · rename_i hc
        obtain ⟨w, hw, rfl⟩ := ih s.length (Nat.lt_succ_self _) h rfl
        exact ⟨c :: w, .plain hq hb (by omega) hw, rfl⟩

theorem stringText_iff {w : List Char} : StringText w ↔ skipString w = .ok [] := by
  constructor
  · intro h
    have := skipString_append h []
    rwa [List.append_nil] at this
  · intro h
    obtain ⟨u, hu, rfl⟩ := exists_stringText h
    rwa [List.append_nil]

theorem foldr_size_append (s t : List Char) :
    s.foldr (fun c size => c.utf8Size + size) 0 ≤ (s ++ t).foldr (fun c size => c.utf8Size + size) 0 := by
  induction s with
  | nil => exact Nat.zero_le _
  | cons c s ih => exact Nat.add_le_add_left ih _

theorem fourBytes_of_append {s : List Char} (h : fourBytes s = true) (t : List Char) : fourBytes (s ++ t) = true := by
  rw [fourBytes, decide_eq_true_eq] at *
  rw [List.take_append]
  exact Nat.le_trans h (foldr_size_append _ _)

/-- **What a string is read as does not depend on what follows it.** -/
theorem readChars_append (state : StringState) (acc : List Char) {s rest : List Char}
    (h : skipChars state.skipState s = .ok rest) (t : List Char) :
    readChars state acc (s ++ t) = (readChars state acc s).map fun p => (p.1, p.2 ++ t) := by
  fun_induction readChars state acc s <;>
    simp_all [StringState.skipState, skipChars, escape?_u, readChars, fourBytes_of_append, Nat.not_lt_of_le,
      Except.map]

theorem StringText.readString_iff {name : List Char} (h : StringText name) {rest r : List Char} {x : String} :
    readString (name ++ rest) = .ok (x, r) ↔ readString name = .ok (x, []) ∧ r = rest := by
  have hskip := stringText_iff.1 h
  have happend : readChars .plain [] (name ++ rest) = (readChars .plain [] name).map fun p => (p.1, p.2 ++ rest) :=
    readChars_append .plain [] hskip rest
  rw [readString, readString, happend, map_eq_ok]
  constructor
  · rintro ⟨⟨y, u⟩, hy, heq⟩
    cases heq
    cases hskip.symm.trans (skipString_of_readString hy)
    exact ⟨hy, rfl⟩
  · rintro ⟨hx, rfl⟩
    exact ⟨(x, []), hx, rfl⟩

end Json
end SinkReporter
