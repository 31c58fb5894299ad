import SinkReporter.Json.Reader
import SinkReporter.Proofs.Json.Parts
import SinkReporter.Proofs.Json.Members
/-!
# Proofs.Json.Spelling — the tree that a text spells

`Spells` is the grammar of JSON texts as a relation: it keeps the members of an object as they are written, repeated names
and all.  What the reader of values answers is the tree that the text spells, in canonical form (`readValue_eq_ok_iff`,
`parse_eq_ok_iff`).  Any other reader that works through a container part by part goes through the parts of the tree
(`foldItems_spelled`, `foldMembers_spelled`), so that it can be compared with the tree alone.
-/
namespace SinkReporter
namespace Json

mutual
/-- **A tree is spelled at the start of a text**, white space before it allowed, with at most `depth` containers inside one
another and the last characters left over. -/
inductive Spells : Nat → List Char → Value → List Char → Prop where
  | null {depth s t rest} : skipSpace s = 'n' :: t → expect ['u', 'l', 'l'] t = .ok rest → Spells depth s .null rest
  | yes {depth s t rest} : skipSpace s = 't' :: t → expect ['r', 'u', 'e'] t = .ok rest →
      Spells depth s (.bool true) rest
  | no {depth s t rest} : skipSpace s = 'f' :: t → expect ['a', 'l', 's', 'e'] t = .ok rest →
      Spells depth s (.bool false) rest
  | string {depth s t x rest} : skipSpace s = '"' :: t → readString t = .ok (x, rest) → Spells depth s (.string x) rest
  | number {depth s c t n rest} : skipSpace s = c :: t → (c = '-' ∨ (digit? c).isSome) →
      readNumber (c :: t) = .ok (n, rest) → Spells depth s (.number n) rest
  | array {depth s t items rest} : skipSpace s = '[' :: t → SpellsItems depth true t items rest →
      Spells (depth + 1) s (.array items) rest
  | object {depth s t members rest} : skipSpace s = '\x7b' :: t → SpellsMembers depth true t members rest →
      Spells (depth + 1) s (.object members) rest

inductive SpellsItems : Nat → Bool → List Char → List Value → List Char → Prop where
  | done {depth first s rest} : nextItem first s = .ok (.done rest) → SpellsItems depth first s [] rest
  | part {depth first s t v u items rest} : nextItem first s = .ok (.part t) → Spells depth t v u →
      SpellsItems depth false u items rest → SpellsItems depth first s (v :: items) rest

inductive SpellsMembers : Nat → Bool → List Char → List (String × Value) → List Char → Prop where
  | done {depth first s rest} : nextMember first s = .ok (.done rest) → SpellsMembers depth first s [] rest
  | part {depth first s t key u w v x members rest} : nextMember first s = .ok (.part t) → readString t = .ok (key, u) →
      expectColon u = .ok w → Spells depth w v x → SpellsMembers depth false x members rest →
      SpellsMembers depth first s ((key, v) :: members) rest
end

/-- **A text spells a tree**: with white space around it and nothing else. -/
def Spelled (text : String) (tree : Value) : Prop :=
  ∃ rest, Spells maxDepth text.toList tree rest ∧ skipSpace rest = []

theorem expectEnd_eq_ok {s : List Char} : expectEnd s = .ok () ↔ skipSpace s = [] := by
  unfold expectEnd
  split <;> simp_all

/-! ## What is left over is shorter -/

theorem length_lt_of_skipSpace {s t rest : List Char} {c : Char} (hs : skipSpace s = c :: t) (hr : rest <:+ t) :
    rest.length < s.length :=
  Nat.lt_of_le_of_lt hr.length_le (suffix_of_skipSpace hs).length_le

mutual
theorem Spells.length_lt : ∀ {depth : Nat} {s : List Char} {v : Value} {rest : List Char},
    Spells depth s v rest → rest.length < s.length
  | _, _, _, _, .null hs he => length_lt_of_skipSpace hs (expect_suffix he)
  | _, _, _, _, .yes hs he => length_lt_of_skipSpace hs (expect_suffix he)
  | _, _, _, _, .no hs he => length_lt_of_skipSpace hs (expect_suffix he)
  | _, _, _, _, .string hs hx => length_lt_of_skipSpace hs (readString_suffix hx)
  | _, _, _, _, .number hs _ hn => length_lt_of_skipSpace hs (skipNumber_suffix (skipNumber_of_readNumber hn))
  | _, _, _, _, .array hs hi => by
    have := hi.length_lt
    have := length_lt_of_skipSpace hs List.suffix_rfl
    omega
  | _, _, _, _, .object hs hm => by
    have := hm.length_lt
    have := length_lt_of_skipSpace hs List.suffix_rfl
    omega

theorem SpellsItems.length_lt : ∀ {depth : Nat} {first : Bool} {s : List Char} {items : List Value} {rest : List Char},
    SpellsItems depth first s items rest → items.length + rest.length < s.length
  | _, _, _, _, _, .done hn => by
    have := length_lt_of_skipSpace (nextItem_done_iff.1 hn) List.suffix_rfl
    rwa [List.length_nil, Nat.zero_add]
  | _, _, _, _, _, .part hn hv hi => by
    have := (nextItem_part_suffix hn).length_le
    have := hv.length_lt
    have := hi.length_lt
    rw [List.length_cons]
    omega

theorem SpellsMembers.length_lt : ∀ {depth : Nat} {first : Bool} {s : List Char} {members : List (String × Value)}
    {rest : List Char}, SpellsMembers depth first s members rest → members.length + rest.length < s.length
  | _, _, _, _, _, .done hn => by
    have := length_lt_of_skipSpace (nextMember_done_iff.1 hn) List.suffix_rfl
    rwa [List.length_nil, Nat.zero_add]
  | _, _, _, _, _, .part hn hk hc hv hm => by
    have := (nextMember_part_suffix hn).length_le
    have := (readString_suffix hk).length_le
    have := (suffix_of_skipSpace (expectColon_eq_ok.1 hc)).length_le
    have := hv.length_lt
    have := hm.length_lt
    simp only [List.length_cons] at *
    omega
end

/-! ## What stands before a value, and how it starts -/

theorem Spells.of_skipSpace {depth : Nat} {s s' : List Char} {v : Value} {rest : List Char} (h : Spells depth s v rest)
    (hs : skipSpace s' = skipSpace s) : Spells depth s' v rest := by
  cases h with
  | null h he => exact .null (hs.trans h) he
  | yes h he => exact .yes (hs.trans h) he
  | no h he => exact .no (hs.trans h) he
  | string h hx => exact .string (hs.trans h) hx
  | number h hc hn => exact .number (hs.trans h) hc hn
  | array h hi => exact .array (hs.trans h) hi
  | object h hm => exact .object (hs.trans h) hm

theorem Spells.head {depth : Nat} {s : List Char} {v : Value} {rest : List Char} (h : Spells depth s v rest) :
    ∃ c t, skipSpace s = c :: t ∧ c ≠ ']' := by
  cases h with
  | null h he => exact ⟨_, _, h, by decide⟩
  | yes h he => exact ⟨_, _, h, by decide⟩
  | no h he => exact ⟨_, _, h, by decide⟩
  | string h hx => exact ⟨_, _, h, by decide⟩
  | number h hc hn =>
    refine ⟨_, _, h, ?_⟩
    rintro rfl
    revert hc
    decide
  | array h hi => exact ⟨_, _, h, by decide⟩
  | object h hm => exact ⟨_, _, h, by decide⟩

/-! ## Going through the parts of a container -/

section

variable {σ ε : Type} {depth : Nat}

theorem SpellsItems.itemsOf : ∀ {first : Bool} {s : List Char} {items : List Value} {rest : List Char},
    SpellsItems depth first s items rest → ItemsOf (Spells depth) first s items rest
  | _, _, _, _, .done hn => .done hn
  | _, _, _, _, .part hn hv hi => .part hn hv hi.itemsOf

/-- A member is spelled at the start of a text, from after the quote that opens its name. -/
def SpellsMember (depth : Nat) (s : List Char) (m : String × Value) (rest : List Char) : Prop :=
  ∃ u w, readString s = .ok (m.1, u) ∧ expectColon u = .ok w ∧ Spells depth w m.2 rest

theorem SpellsMembers.membersOf : ∀ {first : Bool} {s : List Char} {members : List (String × Value)} {rest : List Char},
    SpellsMembers depth first s members rest → MembersOf (SpellsMember depth) first s members rest
  | _, _, _, _, .done hn => .done hn
  | _, _, _, _, .part hn hk hc hv hm => .part hn ⟨_, _, hk, hc, hv⟩ hm.membersOf

/-- **A loop over the items of an array goes through the items that are spelled**, when its step does on each of them what
`take` does. -/
theorem foldItems_spelled {step : σ → List Char → Reading σ} {take : σ → Value → Except ε σ}
    (h : ∀ {s v u}, Spells depth s v u → ∀ a b r, step a s = .ok (b, r) ↔ take a v = .ok b ∧ r = u)
    {items : List Value} {first : Bool} {s rest : List Char} {fuel : Nat} {a b : σ} {r : List Char}
    (hs : SpellsItems depth first s items rest) (hf : items.length < fuel) :
    foldItems step fuel first a s = .ok (b, r) ↔ items.foldlM take a = .ok b ∧ r = rest := by
  refine foldItems_parts (fun {s v u} hv => ?_) hs.itemsOf hf
  exact h hv

/-- **A loop over the members of an object goes through the members that are spelled.** -/
theorem foldMembers_spelled {step : String → σ → List Char → Reading σ} {take : σ → String × Value → Except ε σ}
    (h : ∀ key {s w v u}, expectColon s = .ok w → Spells depth w v u →
      ∀ a b r, step key a s = .ok (b, r) ↔ take a (key, v) = .ok b ∧ r = u)
    {members : List (String × Value)} {first : Bool} {s rest : List Char} {fuel : Nat} {a b : σ} {r : List Char}
    (hs : SpellsMembers depth first s members rest) (hf : members.length < fuel) :
    foldMembers step fuel first a s = .ok (b, r) ↔ members.foldlM take a = .ok b ∧ r = rest := by
  refine foldMembers_parts (fun {t m u} hm a b r => ?_) hs.membersOf hf
  obtain ⟨v, w, hk, hc, hv⟩ := hm
  rw [← h m.1 hc hv a b r, hk]
  constructor
  · rintro ⟨key, x, heq, hstep⟩
    cases heq
    exact hstep
  · exact fun hstep => ⟨m.1, v, rfl, hstep⟩

theorem exists_spellsItems {step : σ → List Char → Reading σ}
    (h : ∀ a s b r, step a s = .ok (b, r) → ∃ v, Spells depth s v r) :
    ∀ {fuel : Nat} {first : Bool} {a b : σ} {s r : List Char}, foldItems step fuel first a s = .ok (b, r) →
      ∃ items, SpellsItems depth first s items r
  | 0, _, _, _, _, _, hr => by cases hr
  | fuel + 1, first, a, b, s, r, hr => by
    rcases foldItems_eq_ok.1 hr with ⟨hn, -⟩ | ⟨t, c, u, hn, hstep, hr⟩
    · exact ⟨[], .done hn⟩
    · obtain ⟨v, hv⟩ := h a t c u hstep
      obtain ⟨items, hi⟩ := exists_spellsItems h hr
      exact ⟨v :: items, .part hn hv hi⟩

theorem exists_spellsMembers {step : String → σ → List Char → Reading σ}
    (h : ∀ key a s b r, step key a s = .ok (b, r) → ∃ w v, expectColon s = .ok w ∧ Spells depth w v r) :
    ∀ {fuel : Nat} {first : Bool} {a b : σ} {s r : List Char}, foldMembers step fuel first a s = .ok (b, r) →
      ∃ members, SpellsMembers depth first s members r
  | 0, _, _, _, _, _, hr => by cases hr
  | fuel + 1, first, a, b, s, r, hr => by
    rcases foldMembers_eq_ok.1 hr with ⟨hn, -⟩ | ⟨t, key, u, c, x, hn, hk, hstep, hr⟩
    · exact ⟨[], .done hn⟩
    · obtain ⟨w, v, hc, hv⟩ := h key a u c x hstep
      obtain ⟨members, hm⟩ := exists_spellsMembers h hr
      exact ⟨(key, v) :: members, .part hn hk hc hv hm⟩

theorem readItems_spelled {step : σ → List Char → Reading σ} {take : σ → Value → Except ε σ}
    (h : ∀ {s v u}, Spells depth s v u → ∀ a b r, step a s = .ok (b, r) ↔ take a v = .ok b ∧ r = u)
    {items : List Value} {s rest : List Char} {a b : σ} {r : List Char} (hs : SpellsItems depth true s items rest) :
    readItems step a s = .ok (b, r) ↔ items.foldlM take a = .ok b ∧ r = rest :=
  foldItems_spelled h hs (by have := hs.length_lt; omega)

theorem readMembers_spelled {step : String → σ → List Char → Reading σ} {take : σ → String × Value → Except ε σ}
    (h : ∀ key {s w v u}, expectColon s = .ok w → Spells depth w v u →
      ∀ a b r, step key a s = .ok (b, r) ↔ take a (key, v) = .ok b ∧ r = u)
    {members : List (String × Value)} {s rest : List Char} {a b : σ} {r : List Char}
    (hs : SpellsMembers depth true s members rest) :
    readMembers step a s = .ok (b, r) ↔ members.foldlM take a = .ok b ∧ r = rest :=
  foldMembers_spelled h hs (by have := hs.length_lt; omega)

theorem readItems_of_spells {step : σ → List Char → Reading σ} {f : σ → Value → σ}
    (h : ∀ {s v u}, Spells depth s v u → ∀ a, step a s = .ok (f a v, u)) {items : List Value} {s rest : List Char}
    (a : σ) (hs : SpellsItems depth true s items rest) : readItems step a s = .ok (items.foldl f a, rest) := by
  have hstep : ∀ {s v u}, Spells depth s v u → ∀ a b r,
      step a s = .ok (b, r) ↔ (pure (f a v) : Except Unit σ) = .ok b ∧ r = u := fun hv a b r => by
    rw [h hv a]
    simp [pure, Except.pure, eq_comm]
  exact (readItems_spelled hstep hs).2 ⟨List.foldlM_pure, rfl⟩

theorem readMembers_of_spells {step : String → σ → List Char → Reading σ} {f : σ → String × Value → σ}
    (h : ∀ key {s w v u}, expectColon s = .ok w → Spells depth w v u → ∀ a, step key a s = .ok (f a (key, v), u))
    {members : List (String × Value)} {s rest : List Char} (a : σ) (hs : SpellsMembers depth true s members rest) :
    readMembers step a s = .ok (members.foldl f a, rest) := by
  have hstep : ∀ key {s w v u}, expectColon s = .ok w → Spells depth w v u → ∀ a b r,
      step key a s = .ok (b, r) ↔ (pure (f a (key, v)) : Except Unit σ) = .ok b ∧ r = u := by
    intro key _ _ _ _ hc hv a b r
    rw [h key hc hv a]
    simp [pure, Except.pure, eq_comm]
  exact (readMembers_spelled hstep hs).2 ⟨List.foldlM_pure, rfl⟩

end

/-! ## The reader of values -/

theorem number_ne {c : Char} (h : c = '-' ∨ (digit? c).isSome) :
    c ≠ 'n' ∧ c ≠ 't' ∧ c ≠ 'f' ∧ c ≠ '"' ∧ c ≠ '[' ∧ c ≠ '\x7b' := by
  refine ⟨?_, ?_, ?_, ?_, ?_, ?_⟩ <;> rintro rfl <;> revert h <;> decide

theorem digit?_bracket : digit? '[' = none := by decide

theorem digit?_brace : digit? '\x7b' = none := by decide

theorem foldl_cons_reverse {α β : Type} (f : α → β) : ∀ (xs : List α) (acc : List β),
    (xs.foldl (fun a x => f x :: a) acc).reverse = acc.reverse ++ xs.map f
  | [], acc => (List.append_nil _).symm
  | x :: xs, acc => by
    rw [List.foldl_cons, foldl_cons_reverse f xs, List.reverse_cons, List.append_assoc, List.map_cons]
    rfl

theorem readItems_values {depth : Nat} {t rest : List Char} {items : List Value}
    (h : ∀ {s v u}, Spells depth s v u → readValue depth s = .ok (v.canonical, u))
    (hi : SpellsItems depth true t items rest) :
    readItems (fun acc s => (readValue depth s).map fun (v, r) => (v :: acc, r)) [] t =
      .ok ((canonicalItems items).reverse, rest) := by
  rw [readItems_of_spells (fun hv a => by rw [h hv]; rfl) [] hi, canonicalItems_eq_map,
    ← List.reverse_reverse (items.foldl _ _), foldl_cons_reverse]
  rfl

theorem readMembers_values {depth : Nat} {t rest : List Char} {members : List (String × Value)}
    (h : ∀ {s v u}, Spells depth s v u → readValue depth s = .ok (v.canonical, u))
    (hm : SpellsMembers depth true t members rest) :
    readMembers (fun key acc s =>
        match expectColon s with
        | .error e => .error e
        | .ok s => (readValue depth s).map fun (v, r) => (putMember key v acc, r)) [] t =
      .ok (sortMembers (canonicalMembers members), rest) := by
  rw [canonicalMembers_eq_map, sortMembers, List.foldl_map]
  exact readMembers_of_spells (fun key {s w v u} hc hv a => by rw [hc]; dsimp only; rw [h hv]; rfl) [] hm

theorem readValue_of_spells : ∀ {depth : Nat} {s : List Char} {tree : Value} {rest : List Char},
    Spells depth s tree rest → readValue depth s = .ok (tree.canonical, rest)
  | _, _, _, _, .null hs he => by rw [readValue, hs, Value.canonical]; simp only [↓reduceIte, he, Except.map]
  | _, _, _, _, .yes hs he => by
    rw [readValue, hs, Value.canonical]; simp only [Char.reduceEq, ↓reduceIte, he, Except.map]
  | _, _, _, _, .no hs he => by
    rw [readValue, hs, Value.canonical]; simp only [Char.reduceEq, ↓reduceIte, he, Except.map]
  | _, _, _, _, .string hs hx => by
    rw [readValue, hs, Value.canonical]; simp only [Char.reduceEq, ↓reduceIte, hx, Except.map]
  | _, _, _, _, .number hs hc hn => by
    obtain ⟨h1, h2, h3, h4, -, -⟩ := number_ne hc
    rw [readValue, hs, Value.canonical]
    simp only [h1, h2, h3, h4, hc, ↓reduceIte, hn, Except.map]
  | depth + 1, _, .array items, rest, .array hs hi => by
    have hitems := readItems_values readValue_of_spells hi
    rw [readValue, hs, Value.canonical]
    simp only [Char.reduceEq, ↓reduceIte, Option.isSome_none, Bool.false_eq_true, or_self, digit?_bracket]
    refine map_eq_ok.2 ⟨_, hitems, ?_⟩
    rw [List.reverse_reverse]
  | depth + 1, _, .object members, rest, .object hs hm => by
    have hmembers := readMembers_values readValue_of_spells hm
    rw [readValue, hs, Value.canonical]
    simp only [Char.reduceEq, ↓reduceIte, Option.isSome_none, Bool.false_eq_true, or_self, digit?_brace]
    exact map_eq_ok.2 ⟨_, hmembers, rfl⟩

theorem exists_spells : ∀ {depth : Nat} {s rest : List Char} {v : Value}, readValue depth s = .ok (v, rest) →
    ∃ tree, Spells depth s tree rest
  | depth, s, rest, v, h => by
    rw [readValue] at h
    split at h
    · cases h
    rename_i c t hs
    split at h
    · rename_i hc
      subst hc
      obtain ⟨_, he, heq⟩ := map_eq_ok.1 h
      cases heq
      exact ⟨_, .null hs he⟩
    split at h
    · rename_i hc
      subst hc
      obtain ⟨_, he, heq⟩ := map_eq_ok.1 h
      cases heq
      exact ⟨_, .yes hs he⟩
    split at h
    · rename_i hc
      subst hc
      obtain ⟨_, he, heq⟩ := map_eq_ok.1 h
      cases heq
      exact ⟨_, .no hs he⟩
    split at h
    · rename_i hc
      subst hc
      obtain ⟨_, hx, heq⟩ := map_eq_ok.1 h
      cases heq
      exact ⟨_, .string hs hx⟩
    split at h
    · rename_i hc
      obtain ⟨_, hn, heq⟩ := map_eq_ok.1 h
      cases heq
      exact ⟨_, .number hs hc hn⟩
    split at h
    · rename_i hc
      subst hc
      split at h
      · cases h
      rename_i depth
      obtain ⟨_, hi, heq⟩ := map_eq_ok.1 h
      cases heq
      obtain ⟨items, hi⟩ := exists_spellsItems (fun acc s b r hr => by
        obtain ⟨_, hv, heq⟩ := map_eq_ok.1 hr
        cases heq
        exact exists_spells hv) hi
      exact ⟨_, .array hs hi⟩
    split at h
    · rename_i hc
      subst hc
      split at h
      · cases h
      rename_i depth
      obtain ⟨_, hm, heq⟩ := map_eq_ok.1 h
      cases heq
      obtain ⟨members, hm⟩ := exists_spellsMembers (fun key acc s b r hr => by
        split at hr
        · cases hr
        rename_i w hw
        obtain ⟨_, hv, heq⟩ := map_eq_ok.1 hr
        cases heq
        obtain ⟨tree, ht⟩ := exists_spells hv
        exact ⟨w, tree, hw, ht⟩) hm
      exact ⟨_, .object hs hm⟩
    · cases h

/-- **What the reader of values answers is the spelled tree in canonical form.** -/
theorem readValue_eq_ok_iff {depth : Nat} {s rest : List Char} {v : Value} :
    readValue depth s = .ok (v, rest) ↔ ∃ tree, Spells depth s tree rest ∧ tree.canonical = v := by
  constructor
  · intro h
    obtain ⟨tree, ht⟩ := exists_spells h
    rw [readValue_of_spells ht] at h
    cases h
    exact ⟨tree, ht, rfl⟩
  · rintro ⟨tree, ht, rfl⟩
    exact readValue_of_spells ht

theorem parse_eq_ok_iff {text : String} {v : Value} :
    parse text = .ok v ↔ ∃ tree, Spelled text tree ∧ tree.canonical = v := by
  unfold parse
  constructor
  · intro h
    split at h
    · cases h
    rename_i value rest hv
    obtain ⟨tree, ht, rfl⟩ := readValue_eq_ok_iff.1 hv
    obtain ⟨_, he, rfl⟩ := map_eq_ok.1 h
    exact ⟨tree, ⟨rest, ht, expectEnd_eq_ok.1 he⟩, rfl⟩
  · rintro ⟨tree, ⟨rest, ht, he⟩, rfl⟩
    rw [readValue_of_spells ht]
    exact map_eq_ok.2 ⟨(), expectEnd_eq_ok.2 he, rfl⟩

end Json
end SinkReporter
