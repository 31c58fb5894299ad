import SinkReporter.Proofs.Json.Leaves
/-!
# Proofs.Json.Parts — the parts of a container

`ItemsOf` and `MembersOf` cut a container into its parts, whatever a part is taken to be.  A loop goes through the parts
when its step does on each of them what a function of the part does (`foldItems_parts`, `foldMembers_parts`), so that what
the loop answers is a matter of the parts alone.
-/
namespace SinkReporter
namespace Json

/-- **The items of an array, one after the other**, up to and with its closing bracket.  `P` says which part stands at the
start of a text, and what is left over. -/
inductive ItemsOf {β : Type} (P : List Char → β → List Char → Prop) : Bool → List Char → List β → List Char → Prop where
  | done {first s rest} : nextItem first s = .ok (.done rest) → ItemsOf P first s [] rest
  | part {first s t x u parts rest} : nextItem first s = .ok (.part t) → P t x u → ItemsOf P false u parts rest →
      ItemsOf P first s (x :: parts) rest

/-- **The members of an object, one after the other**, each from after the quote that opens its name. -/
inductive MembersOf {β : Type} (P : List Char → β → List Char → Prop) : Bool → List Char → List β → List Char → Prop where
  | done {first s rest} : nextMember first s = .ok (.done rest) → MembersOf P first s [] rest
  | part {first s t x u parts rest} : nextMember first s = .ok (.part t) → P t x u → MembersOf P false u parts rest →
      MembersOf P first s (x :: parts) rest

section

variable {β : Type} {P : List Char → β → List Char → Prop} {first : Bool} {s rest : List Char} {parts : List β}

/-- Each part takes at least one character, and so does the closing bracket. -/
theorem ItemsOf.length_lt (hP : ∀ {t x u}, P t x u → u.length < t.length) (h : ItemsOf P first s parts rest) :
    parts.length + rest.length < s.length := by
  induction h with
  | done hn =>
    have := (suffix_of_skipSpace (nextItem_done_iff.1 hn)).length_le
    rw [List.length_cons] at this
    rw [List.length_nil]
    omega
  | part hn hx _ ih =>
    have := (nextItem_part_suffix hn).length_le
    have := hP hx
    rw [List.length_cons]
    omega

theorem MembersOf.length_lt (hP : ∀ {t x u}, P t x u → u.length < t.length) (h : MembersOf P first s parts rest) :
    parts.length + rest.length < s.length := by
  induction h with
  | done hn =>
    have := (suffix_of_skipSpace (nextMember_done_iff.1 hn)).length_le
    rw [List.length_cons] at this
    rw [List.length_nil]
    omega
  | part hn hx _ ih =>
    have := (nextMember_part_suffix hn).length_le
    have := hP hx
    rw [List.length_cons] at *
    omega

variable {σ ε : Type}

/-- **A loop over items goes through the parts.**  By induction on the parts: both take the first, and then they agree on
the rest whatever the state. -/
theorem foldItems_parts {step : σ → List Char → Reading σ} {take : σ → β → Except ε σ}
    (hstep : ∀ {t x u}, P t x u → ∀ a b r, step a t = .ok (b, r) ↔ take a x = .ok b ∧ r = u)
    (h : ItemsOf P first s parts rest) {fuel : Nat} (hfuel : parts.length < fuel) {a b : σ} {r : List Char} :
    foldItems step fuel first a s = .ok (b, r) ↔ parts.foldlM take a = .ok b ∧ r = rest := by
  obtain ⟨fuel, rfl⟩ : ∃ n, fuel = n + 1 := ⟨fuel - 1, by omega⟩
  induction h generalizing fuel a with
  | done hn =>
    rw [foldItems_eq_ok, hn]
    simp [pure, Except.pure, eq_comm, and_comm]
  | part hn hx _ ih =>
    rw [List.length_cons] at hfuel
    obtain ⟨fuel, rfl⟩ : ∃ n, fuel = n + 1 := ⟨fuel - 1, by omega⟩
    rw [foldItems_eq_ok, hn, foldlM_cons_eq_ok]
    constructor
    · rintro (⟨hdone, -⟩ | ⟨t, c, u, ht, hc, hr⟩)
      · cases hdone
      · cases ht
        obtain ⟨htake, rfl⟩ := (hstep hx a c u).1 hc
        obtain ⟨hr, rfl⟩ := (ih fuel (by omega)).1 hr
        exact ⟨⟨c, htake, hr⟩, rfl⟩
    · rintro ⟨⟨c, htake, hr⟩, rfl⟩
      exact .inr ⟨_, c, _, rfl, (hstep hx a c _).2 ⟨htake, rfl⟩, (ih fuel (by omega)).2 ⟨hr, rfl⟩⟩

/-- **A loop over members goes through the parts**, of which the step is given the name that it reads. -/
theorem foldMembers_parts {step : String → σ → List Char → Reading σ} {take : σ → β → Except ε σ}
    (hstep : ∀ {t x u}, P t x u → ∀ a b r,
      (∃ key w, readString t = .ok (key, w) ∧ step key a w = .ok (b, r)) ↔ take a x = .ok b ∧ r = u)
    (h : MembersOf P first s parts rest) {fuel : Nat} (hfuel : parts.length < fuel) {a b : σ} {r : List Char} :
    foldMembers step fuel first a s = .ok (b, r) ↔ parts.foldlM take a = .ok b ∧ r = rest := by
  obtain ⟨fuel, rfl⟩ : ∃ n, fuel = n + 1 := ⟨fuel - 1, by omega⟩
  induction h generalizing fuel a with
  | done hn =>
    rw [foldMembers_eq_ok, hn]
    simp [pure, Except.pure, eq_comm, and_comm]
  | part hn hx _ ih =>
    rw [List.length_cons] at hfuel
    obtain ⟨fuel, rfl⟩ : ∃ n, fuel = n + 1 := ⟨fuel - 1, by omega⟩
    rw [foldMembers_eq_ok, hn, foldlM_cons_eq_ok]
    constructor
    · rintro (⟨hdone, -⟩ | ⟨t, key, w, c, u, ht, hk, hc, hr⟩)
      · cases hdone
      · cases ht
        obtain ⟨htake, rfl⟩ := (hstep hx a c u).1 ⟨key, w, hk, hc⟩
        obtain ⟨hr, rfl⟩ := (ih fuel (by omega)).1 hr
        exact ⟨⟨c, htake, hr⟩, rfl⟩
    · rintro ⟨⟨c, htake, hr⟩, rfl⟩
      obtain ⟨key, w, hk, hc⟩ := (hstep hx a c _).2 ⟨htake, rfl⟩
      exact .inr ⟨_, key, w, c, _, rfl, hk, hc, (ih fuel (by omega)).2 ⟨hr, rfl⟩⟩

end

end Json
end SinkReporter
