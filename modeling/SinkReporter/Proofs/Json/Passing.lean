import SinkReporter.Json.Skip
import SinkReporter.Proofs.Json.Spelling
/-!
# Proofs.Json.Passing — what is passed over

`Passes` is the grammar of what only has to be well formed.  It sets no limit to how deep containers nest, and neither does
`skipValue`, which passes over exactly that (`skipValue_eq_ok_iff`).  Whatever is spelled is passed over
(`Spells.passes`).
-/
namespace SinkReporter
namespace Json

mutual
/-- **Something well formed stands at the start of a text**, white space before it allowed, with the last characters left
over. -/
inductive Passes : List Char → List Char → Prop where
  | null {s t rest} : skipSpace s = 'n' :: t → expect ['u', 'l', 'l'] t = .ok rest → Passes s rest
  | yes {s t rest} : skipSpace s = 't' :: t → expect ['r', 'u', 'e'] t = .ok rest → Passes s rest
  | no {s t rest} : skipSpace s = 'f' :: t → expect ['a', 'l', 's', 'e'] t = .ok rest → Passes s rest
  | string {s t rest} : skipSpace s = '"' :: t → skipString t = .ok rest → Passes s rest
  | number {s c t rest} : skipSpace s = c :: t → (c = '-' ∨ (digit? c).isSome) → skipNumber (c :: t) = .ok rest →
      Passes s rest
  | array {s t rest} : skipSpace s = '[' :: t → PassesItems true t rest → Passes s rest
  | object {s t rest} : skipSpace s = '\x7b' :: t → PassesMembers true t rest → Passes s rest

inductive PassesItems : Bool → List Char → List Char → Prop where
  | done {first s rest} : nextItem first s = .ok (.done rest) → PassesItems first s rest
  | part {first s t u rest} : nextItem first s = .ok (.part t) → Passes t u → PassesItems false u rest →
      PassesItems first s rest

inductive PassesMembers : Bool → List Char → List Char → Prop where
  | done {first s rest} : nextMember first s = .ok (.done rest) → PassesMembers first s rest
  | part {first s t u w x rest} : nextMember first s = .ok (.part t) → skipString t = .ok u → expectColon u = .ok w →
      Passes w x → PassesMembers false x rest → PassesMembers first s rest
end

/-! ## What is left over is shorter -/

mutual
theorem Passes.length_lt : ∀ {s rest : List Char}, Passes s rest → rest.length < s.length
  | _, _, .null hs he => length_lt_of_skipSpace hs (expect_suffix he)
  | _, _, .yes hs he => length_lt_of_skipSpace hs (expect_suffix he)
  | _, _, .no hs he => length_lt_of_skipSpace hs (expect_suffix he)
  | _, _, .string hs hx => length_lt_of_skipSpace hs (skipString_suffix hx)
  | _, _, .number hs _ hn => length_lt_of_skipSpace hs (skipNumber_suffix hn)
  | _, _, .array hs hi => by
    have := hi.length_lt
    have := length_lt_of_skipSpace hs List.suffix_rfl
    omega
  | _, _, .object hs hm => by
    have := hm.length_lt
    have := length_lt_of_skipSpace hs List.suffix_rfl
    omega

theorem PassesItems.length_lt : ∀ {first : Bool} {s rest : List Char}, PassesItems first s rest → rest.length < s.length
  | _, _, _, .done hn => length_lt_of_skipSpace (nextItem_done_iff.1 hn) List.suffix_rfl
  | _, _, _, .part hn hv hi => by
    have := (nextItem_part_suffix hn).length_le
    have := hv.length_lt
    have := hi.length_lt
    omega

theorem PassesMembers.length_lt : ∀ {first : Bool} {s rest : List Char}, PassesMembers first s rest →
    rest.length < s.length
  | _, _, _, .done hn => length_lt_of_skipSpace (nextMember_done_iff.1 hn) List.suffix_rfl
  | _, _, _, .part hn hk hc hv hm => by
    have := (nextMember_part_suffix hn).length_le
    have := (skipString_suffix hk).length_le
    have := (suffix_of_skipSpace (expectColon_eq_ok.1 hc)).length_le
    have := hv.length_lt
    have := hm.length_lt
    simp only [List.length_cons] at *
    omega
end

theorem Passes.of_skipSpace {s rest : List Char} (h : Passes (skipSpace s) rest) : Passes s rest := by
  have hs := skipSpace_skipSpace s
  cases h with
  | null h he => exact .null (hs.symm.trans h) he
  | yes h he => exact .yes (hs.symm.trans h) he
  | no h he => exact .no (hs.symm.trans h) he
  | string h hx => exact .string (hs.symm.trans h) hx
  | number h hc hn => exact .number (hs.symm.trans h) hc hn
  | array h hi => exact .array (hs.symm.trans h) hi
  | object h hm => exact .object (hs.symm.trans h) hm

/-! ## What is spelled is passed over -/

mutual
theorem Spells.passes : ∀ {depth : Nat} {s : List Char} {v : Value} {rest : List Char}, Spells depth s v rest →
    Passes s rest
  | _, _, _, _, .null hs he => .null hs he
  | _, _, _, _, .yes hs he => .yes hs he
  | _, _, _, _, .no hs he => .no hs he
  | _, _, _, _, .string hs hx => .string hs (skipString_of_readString hx)
  | _, _, _, _, .number hs hc hn => .number hs hc (skipNumber_of_readNumber hn)
  | _, _, _, _, .array hs hi => .array hs hi.passes
  | _, _, _, _, .object hs hm => .object hs hm.passes

theorem SpellsItems.passes : ∀ {depth : Nat} {first : Bool} {s : List Char} {items : List Value} {rest : List Char},
    SpellsItems depth first s items rest → PassesItems first s rest
  | _, _, _, _, _, .done hn => .done hn
  | _, _, _, _, _, .part hn hv hi => .part hn hv.passes hi.passes

theorem SpellsMembers.passes : ∀ {depth : Nat} {first : Bool} {s : List Char} {members : List (String × Value)}
    {rest : List Char}, SpellsMembers depth first s members rest → PassesMembers first s rest
  | _, _, _, _, _, .done hn => .done hn
  | _, _, _, _, _, .part hn hk hc hv hm => .part hn (skipString_of_readString hk) hc hv.passes hm.passes
end

/-! ## Loops pass over containers -/

section

variable {σ : Type}

theorem passes_of_foldItems {step : σ → List Char → Reading σ} (h : ∀ {a s b r}, step a s = .ok (b, r) → Passes s r) :
    ∀ {fuel : Nat} {first : Bool} {a b : σ} {s r : List Char}, foldItems step fuel first a s = .ok (b, r) →
      PassesItems first s r
  | 0, _, _, _, _, _, hr => by cases hr
  | fuel + 1, first, a, b, s, r, hr => by
    rcases foldItems_eq_ok.1 hr with ⟨hn, -⟩ | ⟨t, c, u, hn, hstep, hr⟩
    · exact .done hn
    · exact .part hn (h hstep) (passes_of_foldItems h hr)

theorem passes_of_foldMembers {step : String → σ → List Char → Reading σ}
    (h : ∀ {key a s b r}, step key a s = .ok (b, r) → ∃ w, expectColon s = .ok w ∧ Passes w r) :
    ∀ {fuel : Nat} {first : Bool} {a b : σ} {s r : List Char}, foldMembers step fuel first a s = .ok (b, r) →
      PassesMembers first s r
  | 0, _, _, _, _, _, hr => by cases hr
  | fuel + 1, first, a, b, s, r, hr => by
    rcases foldMembers_eq_ok.1 hr with ⟨hn, -⟩ | ⟨t, key, u, c, x, hn, hk, hstep, hr⟩
    · exact .done hn
    · obtain ⟨w, hc, hv⟩ := h hstep
      exact .part hn (skipString_of_readString hk) hc hv (passes_of_foldMembers h hr)

theorem passes_of_skipMembers {skip : List Char → Except Fault (List Char)} (h : ∀ {s r}, skip s = .ok r → Passes s r) :
    ∀ {fuel : Nat} {first : Bool} {s r : List Char}, skipMembers skip fuel first s = .ok r → PassesMembers first s r
  | 0, _, _, _, hr => by cases hr
  | fuel + 1, first, s, r, hr => by
    rw [skipMembers] at hr
    split at hr
    · cases hr
    · rename_i rest hn
      cases hr
      exact .done hn
    · rename_i t hn
      split at hr
      · cases hr
      rename_i w hw
      obtain ⟨u, hk, hc⟩ := bind_eq_ok.1 hw
      split at hr
      · cases hr
      rename_i x hx
      exact .part hn hk hc (h hx) (passes_of_skipMembers h hr)

end

/-! ## Passing over a value -/

theorem passes_of_skipNested : ∀ {depth : Nat} {s rest : List Char}, skipNested depth s = .ok rest → Passes s rest
  | depth, s, rest, h => by
    rw [skipNested] at h
    split at h
    · cases h
    rename_i c t hs
    split at h
    · rename_i hc
      exact .null (hc ▸ hs) h
    split at h
    · rename_i hc
      exact .yes (hc ▸ hs) h
    split at h
    · rename_i hc
      exact .no (hc ▸ hs) h
    split at h
    · rename_i hc
      exact .string (hc ▸ hs) h
    split at h
    · rename_i hc
      exact .number hs hc h
    split at h
    · rename_i hc
      split at h
      · cases h
      obtain ⟨⟨_, r⟩, hi, rfl⟩ := map_eq_ok.1 h
      refine .array (hc ▸ hs) (passes_of_foldItems (fun hr => ?_) hi)
      obtain ⟨_, hv, heq⟩ := map_eq_ok.1 hr
      cases heq
      exact passes_of_skipNested hv
    split at h
    · rename_i hc
      split at h
      · cases h
      exact .object (hc ▸ hs) (passes_of_skipMembers passes_of_skipNested h)
    · cases h

mutual
theorem skipNested_of_passes : ∀ {depth : Nat} {s rest : List Char}, Passes s rest → s.length ≤ depth →
    skipNested depth s = .ok rest
  | _, _, _, .null hs he, _ => by rw [skipNested, hs]; exact he
  | _, _, _, .yes hs he, _ => by rw [skipNested, hs]; exact he
  | _, _, _, .no hs he, _ => by rw [skipNested, hs]; exact he
  | _, _, _, .string hs hx, _ => by rw [skipNested, hs]; exact hx
  | _, _, _, .number hs hc hn, _ => by
    obtain ⟨h1, h2, h3, h4, -, -⟩ := number_ne hc
    rw [skipNested, hs]
    simp only [h1, h2, h3, h4, hc, ↓reduceIte, hn]
  | 0, _, _, .array hs _, hd | 0, _, _, .object hs _, hd => by
    -- without depth there are no characters left for a bracket
    have := length_lt_of_skipSpace hs List.suffix_rfl
    omega
  | depth + 1, _, rest, .array (t := t) hs hi, hd => by
    have ht := length_lt_of_skipSpace hs List.suffix_rfl
    have hitems := foldItems_of_passes hi (show t.length ≤ depth by omega) (Nat.lt_succ_self _)
    rw [skipNested, hs]
    simp only [Char.reduceEq, ↓reduceIte, digit?_bracket, Option.isSome_none, Bool.false_eq_true, or_self]
    exact congrArg (Except.map (·.2)) hitems
  | depth + 1, _, rest, .object (t := t) hs hm, hd => by
    have ht := length_lt_of_skipSpace hs List.suffix_rfl
    rw [skipNested, hs]
    simp only [Char.reduceEq, ↓reduceIte, digit?_brace, Option.isSome_none, Bool.false_eq_true, or_self]
    exact skipMembers_of_passes hm (by omega) (Nat.lt_succ_self _)

theorem foldItems_of_passes : ∀ {depth : Nat} {first : Bool} {s rest : List Char} {fuel : Nat},
    PassesItems first s rest → s.length ≤ depth → s.length < fuel →
    foldItems (fun _ s => (skipNested depth s).map fun r => ((), r)) fuel first () s = .ok ((), rest)
  | _, _, _, _, 0, _, _, hf => absurd hf (Nat.not_lt_zero _)
  | _, _, _, _, fuel + 1, .done hn, _, _ => by rw [foldItems, hn]
  | _, _, _, _, fuel + 1, .part hn hv hi, hd, hf => by
    have ht := (nextItem_part_suffix hn).length_le
    have hu := hv.length_lt
    rw [foldItems, hn]
    dsimp only
    rw [skipNested_of_passes hv (by omega)]
    exact foldItems_of_passes hi (by omega) (by omega)

theorem skipMembers_of_passes : ∀ {depth : Nat} {first : Bool} {s rest : List Char} {fuel : Nat},
    PassesMembers first s rest → s.length ≤ depth → s.length < fuel →
    skipMembers (skipNested depth) fuel first s = .ok rest
  | _, _, _, _, 0, _, _, hf => absurd hf (Nat.not_lt_zero _)
  | _, _, _, _, fuel + 1, .done hn, _, _ => by rw [skipMembers, hn]
  | _, _, _, _, fuel + 1, .part hn hk hc hv hm, hd, hf => by
    have ht := (nextMember_part_suffix hn).length_le
    have hu := (skipString_suffix hk).length_le
    have hw := (suffix_of_skipSpace (expectColon_eq_ok.1 hc)).length_le
    have hx := hv.length_lt
    rw [List.length_cons] at ht hw
    rw [skipMembers, hn]
    dsimp only
    rw [hk, Except.bind, hc]
    dsimp only
    rw [skipNested_of_passes hv (by omega)]
    exact skipMembers_of_passes hm (by omega) (by omega)
end

/-- **What is passed over is what is well formed.** -/
theorem skipValue_eq_ok_iff {s rest : List Char} : skipValue s = .ok rest ↔ Passes s rest :=
  ⟨passes_of_skipNested, fun h => skipNested_of_passes h (Nat.le_refl _)⟩

end Json
end SinkReporter
