import SinkReporter.Proofs.Json.Fields
import SinkReporter.Proofs.Json.Layout
/-!
# Proofs.Json.Cutting — what was written breaks off wherever it is cut

A reader takes a word whole when it reads the word and breaks off in every cut of it (`Whole`).  The loops over the parts of a
container take what the printer writes of them whole if their steps do (`foldItems_cut`, `foldMembers_cut`); the rest goes by
the ways in which forms are built.  Only values without numbers are considered, since a number that is cut can be another
number.
-/
namespace SinkReporter
namespace Json

/-! ## Cuts -/

def Cut (p w : List Char) : Prop := ∃ c q, w = p ++ c :: q

variable {p u v w : List Char} {c : Char}

theorem not_cut_nil : ¬ Cut p [] := by
  rintro ⟨c, q, h⟩
  cases p <;> cases h

theorem cut_cons : Cut p (c :: w) ↔ p = [] ∨ ∃ t, p = c :: t ∧ Cut t w := by
  constructor
  · rintro ⟨d, q, h⟩
    cases p with
    | nil => exact .inl rfl
    | cons e t =>
      cases h
      exact .inr ⟨t, rfl, d, q, rfl⟩
  · rintro (rfl | ⟨t, rfl, d, q, rfl⟩)
    · exact ⟨c, w, rfl⟩
    · exact ⟨d, q, rfl⟩

theorem cut_append : Cut p (u ++ v) ↔ Cut p u ∨ ∃ t, p = u ++ t ∧ Cut t v := by
  induction u generalizing p with
  | nil => simp [not_cut_nil]
  | cons d u ih =>
    rw [List.cons_append, cut_cons, cut_cons, or_assoc]
    refine or_congr_right ?_
    simp only [ih, List.cons_append]
    constructor
    · rintro ⟨t, rfl, ht | ⟨x, rfl, hx⟩⟩
      · exact .inl ⟨t, rfl, ht⟩
      · exact .inr ⟨x, rfl, hx⟩
    · rintro (⟨t, rfl, ht⟩ | ⟨x, rfl, hx⟩)
      · exact ⟨t, rfl, .inl ht⟩
      · exact ⟨u ++ x, rfl, .inr ⟨x, rfl, hx⟩⟩

/-! ## Words that are taken whole -/

/-- **A reader takes a word whole**: it reads the word whatever follows, and breaks off wherever the word is cut. -/
structure Whole {α : Type} (read : List Char → Reading α) (w : List Char) (a : α) : Prop where
  reads : ∀ rest, read (w ++ rest) = .ok (a, rest)
  breaks : ∀ p, Cut p w → read p = .error .brokenOff

section

variable {α β : Type} {read : List Char → Reading α} {a : α}

theorem Whole.map (h : Whole read w a) (f : α → β) : Whole (fun s => (read s).map fun (a, r) => (f a, r)) w (f a) where
  reads rest := by
    rw [h.reads rest]
    rfl
  breaks p hp := by
    rw [h.breaks p hp]
    rfl

theorem Whole.colon (h : Whole read w a) : Whole (fun s => (expectColon s).bind read) (':' :: w) a where
  reads rest := by
    rw [List.cons_append, expectColon_cons]
    exact h.reads rest
  breaks p hp := by
    rcases cut_cons.1 hp with rfl | ⟨t, rfl, ht⟩
    · rfl
    · rw [expectColon_cons]
      exact h.breaks t ht

theorem Whole.congr {read' : List Char → Reading α} (h : Whole read w a) (heq : ∀ s, read' s = read s) :
    Whole read' w a := by
  rwa [funext heq]

theorem Whole.member (h : Whole read w a) (key : String) (acc : List (String × α)) :
    Whole (fun s =>
      match expectColon s with
      | .error e => .error e
      | .ok s => (read s).map fun (a, r) => (putMember key a acc, r)) (':' :: w) (putMember key a acc) :=
  (h.map (putMember key · acc)).colon.congr fun s => by cases expectColon s <;> rfl

end

theorem expect_cut (hp : Cut p w) : expect w p = .error .brokenOff := by
  induction w generalizing p with
  | nil => exact absurd hp not_cut_nil
  | cons c w ih =>
    rcases cut_cons.1 hp with rfl | ⟨t, rfl, ht⟩
    · rfl
    · rw [expect, if_pos rfl, ih ht]

/-- **More text changes nothing about a string** that has not broken off. -/
theorem readChars_steady (state : StringState) (acc s t : List Char) :
    readChars state acc s = .error .brokenOff ∨
      readChars state acc (s ++ t) = (readChars state acc s).map fun x => (x.1, x.2 ++ t) := by
  fun_induction readChars state acc s <;> simp_all [readChars, fourBytes_of_append, Nat.not_lt_of_le, Except.map]

theorem readString_cut {x : String} (h : readString w = .ok (x, [])) (hp : Cut p w) :
    readString p = .error .brokenOff := by
  obtain ⟨c, q, rfl⟩ := hp
  -- a string that was read to its end in the cut would leave what was cut off
  refine (readChars_steady .plain [] p (c :: q)).resolve_right fun hsteady => ?_
  obtain ⟨⟨y, r⟩, -, heq⟩ := map_eq_ok.1 (hsteady.symm.trans h)
  cases r <;> cases heq

theorem whole_written (s : String) : Whole readString (s.toList.flatMap escaped ++ ['"']) s where
  reads rest := by
    rw [List.append_assoc]
    exact readString_written s rest
  breaks _ := readString_cut (readString_written s [])

theorem whole_text (s : String) : Whole Form.text.read (stringText s) s where
  reads rest := text_read.2 ⟨_, skipSpace_of_not (by decide) _, (whole_written s).reads rest⟩
  breaks p hp := by
    rcases cut_cons.1 hp with rfl | ⟨t, rfl, ht⟩
    · rfl
    · exact (whole_written s).breaks t ht

theorem whole_boolean (b : Bool) : Whole Form.boolean.read (boolText b) b where
  reads rest := by cases b <;> rfl
  breaks p hp := by
    cases b with
    | true =>
      rcases cut_cons.1 hp with rfl | ⟨t, rfl, ht⟩
      · rfl
      · have hbreaks : Form.boolean.read ('t' :: t) = (expect ['r', 'u', 'e'] t).map fun r => (true, r) := rfl
        rw [hbreaks, expect_cut ht]
        rfl
    | false =>
      rcases cut_cons.1 hp with rfl | ⟨t, rfl, ht⟩
      · rfl
      · have hbreaks : Form.boolean.read ('f' :: t) = (expect ['a', 'l', 's', 'e'] t).map fun r => (false, r) := rfl
        rw [hbreaks, expect_cut ht]
        rfl

/-! ## Parts of containers -/

theorem cut_separator {first : Bool} (hp : Cut p (separator first ++ w)) :
    (first = false ∧ p = []) ∨ ∃ t, p = separator first ++ t ∧ Cut t w := by
  rcases cut_append.1 hp with hp | hp
  · cases first with
    | true => exact absurd hp not_cut_nil
    | false =>
      rcases cut_cons.1 hp with rfl | ⟨t, -, ht⟩
      · exact .inl ⟨rfl, rfl⟩
      · exact absurd ht not_cut_nil
  · exact .inr hp

theorem nextItem_separator (first : Bool) (hc : isSpace c = false) (hb : c ≠ ']') (t : List Char) :
    nextItem first (separator first ++ c :: t) = .ok (.part (c :: t)) := by
  cases first with
  | true => exact nextItem_first_iff.2 ⟨c, t, rfl, skipSpace_of_not hc t, hb⟩
  | false => exact nextItem_later_iff.2 ⟨c, t, _, rfl, skipSpace_of_not (by decide) _, skipSpace_of_not hc t, hb⟩

theorem nextMember_separator (first : Bool) (t : List Char) :
    nextMember first (separator first ++ '"' :: t) = .ok (.part t) := by
  cases first with
  | true => exact nextMember_first_iff.2 (skipSpace_of_not (by decide) t)
  | false => exact nextMember_later_iff.2 ⟨_, skipSpace_of_not (by decide) _, skipSpace_of_not (by decide) t⟩

theorem Plain.head {depth : Nat} {v : Value} (h : Plain depth v) :
    ∃ c t, compactChars v = c :: t ∧ isSpace c = false ∧ c ≠ ']' ∧ (c = 'n' → v = .null) := by
  cases h with
  | null => exact ⟨'n', _, rfl, by decide, by decide, fun _ => rfl⟩
  | bool b =>
    cases b with
    | true => exact ⟨'t', _, rfl, by decide, by decide, fun h => absurd h (by decide)⟩
    | false => exact ⟨'f', _, rfl, by decide, by decide, fun h => absurd h (by decide)⟩
  | string s => exact ⟨'"', _, rfl, by decide, by decide, fun h => absurd h (by decide)⟩
  | array => exact ⟨'[', _, rfl, by decide, by decide, fun h => absurd h (by decide)⟩
  | object => exact ⟨'\x7b', _, rfl, by decide, by decide, fun h => absurd h (by decide)⟩

section

variable {σ ε : Type} {a b : σ} {depth fuel : Nat}

/-- **A loop breaks off wherever the items that were written are cut.** -/
theorem foldItems_cut {step : σ → List Char → Reading σ} {take : σ → Value → Except ε σ} {items : List Value}
    (hplain : ∀ v ∈ items, Plain depth v)
    (hstep : ∀ v ∈ items, ∀ a b, take a v = .ok b → Whole (step a) (compactChars v) b)
    (htake : items.foldlM take a = .ok b) {first : Bool} (hp : Cut p (compactItems first items)) (hfuel : p.length < fuel) :
    foldItems step fuel first a p = .error .brokenOff := by
  -- the cut is before the comma, after it, in the item, or in what follows the item
  induction items generalizing first a p fuel with
  | nil =>
    obtain ⟨fuel, rfl⟩ : ∃ n, fuel = n + 1 := ⟨fuel - 1, by omega⟩
    rcases cut_cons.1 hp with rfl | ⟨t, rfl, ht⟩
    · rfl
    · exact absurd ht not_cut_nil
  | cons v items ih =>
    obtain ⟨fuel, rfl⟩ : ∃ n, fuel = n + 1 := ⟨fuel - 1, by omega⟩
    obtain ⟨hv, hplain⟩ := List.forall_mem_cons.1 hplain
    obtain ⟨hone, hstep⟩ := List.forall_mem_cons.1 hstep
    obtain ⟨a', ha, htake⟩ := foldlM_cons_eq_ok.1 htake
    obtain ⟨c, u, hc, hspace, hbracket, -⟩ := hv.head
    rcases cut_separator hp with ⟨rfl, rfl⟩ | ⟨t, rfl, ht⟩
    · rfl
    cases t with
    | nil => cases first <;> rfl
    | cons d t =>
      have hd : d = c := by
        rw [hc] at ht
        rcases cut_cons.1 ht with h | ⟨x, h, -⟩ <;> cases h
        rfl
      subst hd
      rw [foldItems, nextItem_separator first hspace hbracket]
      dsimp only
      rcases cut_append.1 ht with ht | ⟨x, hx, ht⟩
      · rw [(hone a a' ha).breaks _ ht]
      · rw [hx, (hone a a' ha).reads]
        refine ih hplain hstep htake ht ?_
        have hlength := congrArg List.length hx
        simp only [List.length_append, List.length_cons, hc] at hlength hfuel
        omega

/-- **A loop breaks off wherever the members that were written are cut.** -/
theorem foldMembers_cut {step : String → σ → List Char → Reading σ} {take : σ → String × Value → Except ε σ}
    {members : List (String × Value)}
    (hstep : ∀ m ∈ members, ∀ a b, take a m = .ok b → Whole (step m.1 a) (':' :: compactChars m.2) b)
    (htake : members.foldlM take a = .ok b) {first : Bool} (hp : Cut p (compactMembers first members))
    (hfuel : p.length < fuel) : foldMembers step fuel first a p = .error .brokenOff := by
  -- the cut is before the comma, after it, in the name, between the name and the end of the value, or in what follows
  induction members generalizing first a p fuel with
  | nil =>
    obtain ⟨fuel, rfl⟩ : ∃ n, fuel = n + 1 := ⟨fuel - 1, by omega⟩
    rcases cut_cons.1 hp with rfl | ⟨t, rfl, ht⟩
    · rfl
    · exact absurd ht not_cut_nil
  | cons m members ih =>
    obtain ⟨fuel, rfl⟩ : ∃ n, fuel = n + 1 := ⟨fuel - 1, by omega⟩
    obtain ⟨hone, hstep⟩ := List.forall_mem_cons.1 hstep
    obtain ⟨a', ha, htake⟩ := foldlM_cons_eq_ok.1 htake
    have htext : compactMembers first (m :: members) =
        separator first ++ '"' :: ((m.1.toList.flatMap escaped ++ ['"']) ++ (':' :: compactChars m.2 ++
          compactMembers false members)) := by
      simp [compactMembers, separator, stringText]
    rw [htext] at hp
    rcases cut_separator hp with ⟨rfl, rfl⟩ | ⟨t, rfl, ht⟩
    · rfl
    rcases cut_cons.1 ht with rfl | ⟨x, rfl, hx⟩
    · cases first <;> rfl
    rw [foldMembers, nextMember_separator]
    dsimp only
    rcases cut_append.1 hx with hx | ⟨y, rfl, hy⟩
    · rw [(whole_written m.1).breaks _ hx]
    rw [(whole_written m.1).reads]
    dsimp only
    rcases cut_append.1 hy with hy | ⟨z, rfl, hz⟩
    · rw [(hone a a' ha).breaks _ hy]
    · rw [(hone a a' ha).reads]
      refine ih hstep htake hz ?_
      simp only [List.length_append, List.length_cons] at hfuel
      omega

end

/-! ## Values -/

theorem readValue_nil (depth : Nat) : readValue depth [] = .error .brokenOff := by
  cases depth <;> rfl

theorem readItems_cut {depth : Nat} {items : List Value} (hplain : ∀ v ∈ items, Plain depth v)
    (h : ∀ v ∈ items, Whole (readValue depth) (compactChars v) v.canonical) (hp : Cut p (compactItems true items)) :
    readItems (fun acc s => (readValue depth s).map fun (v, r) => (v :: acc, r)) [] p = .error .brokenOff := by
  have hfold : items.foldlM (fun acc v => (.ok (v.canonical :: acc) : Except Fault (List Value))) [] = .ok _ :=
    List.foldlM_pure ..
  refine foldItems_cut hplain (fun v hv acc acc' hacc => ?_) hfold hp (Nat.lt_succ_self _)
  cases hacc
  exact (h v hv).map (· :: acc)

theorem readMembers_cut {depth : Nat} {members : List (String × Value)}
    (h : ∀ m ∈ members, Whole (readValue depth) (compactChars m.2) m.2.canonical) (hp : Cut p (compactMembers true members)) :
    readMembers (fun key acc s =>
        match expectColon s with
        | .error e => .error e
        | .ok s => (readValue depth s).map fun (v, r) => (putMember key v acc, r)) [] p = .error .brokenOff := by
  have hfold : members.foldlM
      (fun acc m => (.ok (putMember m.1 m.2.canonical acc) : Except Fault (List (String × Value)))) [] = .ok _ :=
    List.foldlM_pure ..
  refine foldMembers_cut (fun m hm acc acc' hacc => ?_) hfold hp (Nat.lt_succ_self _)
  cases hacc
  exact (h m hm).member m.1 acc

/-- **A value without numbers is read whole.** -/
theorem whole_value {depth : Nat} {v : Value} (h : Plain depth v) :
    Whole (readValue depth) (compactChars v) v.canonical := by
  refine ⟨fun rest => readValue_of_spells (spells_compactChars h rest), ?_⟩
  induction h with
  | @null depth =>
    intro p hp
    rcases cut_cons.1 hp with rfl | ⟨t, rfl, ht⟩
    · exact readValue_nil depth
    · rw [readValue, skipSpace_of_not (by decide)]
      simp only [↓reduceIte, expect_cut ht, Except.map]
  | @bool depth b =>
    intro p hp
    cases b with
    | true =>
      rcases cut_cons.1 hp with rfl | ⟨t, rfl, ht⟩
      · exact readValue_nil depth
      · rw [readValue, skipSpace_of_not (by decide)]
        simp only [Char.reduceEq, ↓reduceIte, expect_cut ht, Except.map]
    | false =>
      rcases cut_cons.1 hp with rfl | ⟨t, rfl, ht⟩
      · exact readValue_nil depth
      · rw [readValue, skipSpace_of_not (by decide)]
        simp only [Char.reduceEq, ↓reduceIte, expect_cut ht, Except.map]
  | @string depth s =>
    intro p hp
    rcases cut_cons.1 hp with rfl | ⟨t, rfl, ht⟩
    · exact readValue_nil depth
    · rw [readValue, skipSpace_of_not (by decide)]
      simp only [Char.reduceEq, ↓reduceIte, (whole_written s).breaks t ht, Except.map]
  | @array depth items hitems ih =>
    intro p hp
    rcases cut_cons.1 hp with rfl | ⟨t, rfl, ht⟩
    · exact readValue_nil _
    have hloop := readItems_cut hitems (fun v hv =>
      ⟨fun rest => readValue_of_spells (spells_compactChars (hitems v hv) rest), ih v hv⟩) ht
    rw [readValue, skipSpace_of_not (by decide)]
    simp only [Char.reduceEq, ↓reduceIte, Option.isSome_none, Bool.false_eq_true, or_self, digit?_bracket]
    exact congrArg (Except.map _) hloop
  | @object depth members hmembers ih =>
    intro p hp
    rcases cut_cons.1 hp with rfl | ⟨t, rfl, ht⟩
    · exact readValue_nil _
    have hloop := readMembers_cut (fun m hm =>
      ⟨fun rest => readValue_of_spells (spells_compactChars (hmembers m hm) rest), ih m hm⟩) ht
    rw [readValue, skipSpace_of_not (by decide)]
    simp only [Char.reduceEq, ↓reduceIte, Option.isSome_none, Bool.false_eq_true, or_self, digit?_brace]
    exact congrArg (Except.map _) hloop

/-! ## Forms -/

section

variable {α β : Type} {form : Form α} {v : Value}

/-- **A form takes a value whole**: what is taken from the value is read of its text, and not of less. -/
def Form.TakesWhole (form : Form α) (v : Value) : Prop := ∀ a, form.take v = .ok a → Whole form.read (compactChars v) a

theorem Form.Lawful.takesWhole (hf : form.Lawful) (depth : Nat) (hv : Plain depth v)
    (h : ∀ a, form.take v = .ok a → ∀ p, Cut p (compactChars v) → form.read p = .error .brokenOff) : form.TakesWhole v :=
  fun a ha => ⟨fun rest => (hf.follows (spells_compactChars hv rest)).2 ⟨ha, rfl⟩, h a ha⟩

theorem takesWhole_text (s : String) : Form.text.TakesWhole (.string s) := by
  intro a ha
  cases ha
  exact whole_text s

theorem takesWhole_boolean (b : Bool) : Form.boolean.TakesWhole (.bool b) := by
  intro a ha
  cases ha
  exact whole_boolean b

theorem takesWhole_choice {names : List String} {ofName? : String → Option α} (s : String) :
    (Form.choice names ofName?).TakesWhole (.string s) := by
  refine lawful_choice.takesWhole 0 (.string s) fun a _ p hp => ?_
  rcases cut_cons.1 hp with rfl | ⟨t, rfl, ht⟩
  · rfl
  · have hquote : skipSpace ('"' :: t) = '"' :: t := skipSpace_of_not (by decide) t
    simp only [Form.choice, hquote, (whole_written s).breaks t ht]

theorem optional_read_of_ne {c : Char} (hc : isSpace c = false) (hn : c ≠ 'n') (t : List Char) :
    form.optional.read (c :: t) = (form.read (c :: t)).map fun (a, r) => (some a, r) := by
  unfold Form.optional
  dsimp only
  rw [skipSpace_of_not hc]
  split
  · rename_i heq
    cases heq
    exact absurd rfl hn
  · rfl

theorem Form.TakesWhole.optional (h : form.TakesWhole v) (depth : Nat) (hv : Plain depth v) (hne : v ≠ .null) :
    form.optional.TakesWhole v := by
  intro x hx
  obtain ⟨a, ha, rfl⟩ := (optional_take hne).1 hx
  obtain ⟨c, u, hc, hspace, -, hn⟩ := hv.head
  have hwhole := (h a ha).map some
  have heq : ∀ t, form.optional.read (c :: t) = (form.read (c :: t)).map fun (a, r) => (some a, r) :=
    optional_read_of_ne hspace fun heq => hne (hn heq)
  rw [hc] at hwhole ⊢
  constructor
  · intro rest
    rw [List.cons_append, heq]
    exact hwhole.reads rest
  · intro p hp
    rcases cut_cons.1 hp with rfl | ⟨t, rfl, -⟩
    · exact hwhole.breaks [] hp
    · rw [heq]
      exact hwhole.breaks _ hp

theorem Form.Lawful.takesWhole_list (hf : form.Lawful) (depth : Nat) {items : List Value}
    (hplain : ∀ v ∈ items, Plain depth v) (h : ∀ v ∈ items, form.TakesWhole v) : form.list.TakesWhole (.array items) := by
  refine hf.list.takesWhole (depth + 1) (.array hplain) fun as has p hp => ?_
  have htake : items.mapM form.take = .ok as := has
  have hfold : items.foldlM (fun acc v => (form.take v).map (· :: acc)) [] = .ok (as.reverse ++ []) := by
    rw [foldlM_cons_eq_mapM, htake]
    rfl
  rcases cut_cons.1 hp with rfl | ⟨t, rfl, ht⟩
  · rfl
  have hloop : readItems (fun acc s => (form.read s).map fun (a, r) => (a :: acc, r)) [] t = .error .brokenOff := by
    refine foldItems_cut hplain (fun v hv acc acc' hacc => ?_) hfold ht (Nat.lt_succ_self _)
    obtain ⟨a, ha, rfl⟩ := map_eq_ok.1 hacc
    exact (h v hv a ha).map (· :: acc)
  unfold Form.list
  dsimp only
  rw [skipSpace_of_not (by decide)]
  exact congrArg (Except.map _) hloop

theorem Form.Lawful.takesWhole_map (hf : form.Lawful) (depth : Nat) {members : List (String × Value)}
    (hplain : ∀ m ∈ members, Plain depth m.2) (h : ∀ m ∈ members, form.TakesWhole m.2) :
    form.map.TakesWhole (.object members) := by
  refine hf.map.takesWhole (depth + 1) (.object hplain) fun named hnamed p hp => ?_
  obtain ⟨as, has, -⟩ := map_take.1 hnamed
  have hfold : members.foldlM (fun acc m => (form.take m.2).map fun a => putMember m.1 a acc) [] = .ok _ :=
    (foldlM_putMember_eq members []).trans (congrArg (Except.map _) has)
  rcases cut_cons.1 hp with rfl | ⟨t, rfl, ht⟩
  · rfl
  unfold Form.map
  dsimp only
  rw [skipSpace_of_not (by decide)]
  refine foldMembers_cut (fun m hm acc acc' hacc => ?_) hfold ht (Nat.lt_succ_self _)
  obtain ⟨a, ha, rfl⟩ := map_eq_ok.1 hacc
  exact (h m hm a ha).member m.1 acc

theorem Field.whole_of {ρ : Type} (h : form.TakesWhole v) {name : String} {get : ρ → Option α} {put : ρ → α → ρ}
    {ends : Bool} (d d' : ρ) (hd : (Field.of name form get put ends).take d v = .ok d') :
    Whole ((Field.of name form get put ends).read d) (compactChars v) d' := by
  obtain ⟨a, ha, rfl⟩ := map_eq_ok.1 hd
  exact (h a ha).map (put d)

/-- **A record takes an object whole** if each member is a field that is taken whole. -/
theorem Record.Lawful.takesWhole {ρ : Type} {record : Record ρ α} (h : record.Lawful) (depth : Nat)
    {members : List (String × Value)} (hplain : ∀ m ∈ members, Plain depth m.2)
    (hfields : ∀ m ∈ members, ∃ f, record.field? m.1 = some f ∧
      ∀ d d', f.take d m.2 = .ok d' → Whole (f.read d) (compactChars m.2) d') :
    record.form.TakesWhole (.object members) := by
  refine h.form.takesWhole (depth + 1) (.object hplain) fun a ha p hp => ?_
  obtain ⟨d, hd, -⟩ := Record.take_object.1 ha
  rcases cut_cons.1 hp with rfl | ⟨t, rfl, ht⟩
  · rfl
  have hloop : readMembers record.readMember record.blank t = .error .brokenOff := by
    refine foldMembers_cut (fun m hm d d' htake => ?_) hd ht (Nat.lt_succ_self _)
    obtain ⟨f, hf, hwhole⟩ := hfields m hm
    rcases Record.takeMember_eq_ok.1 htake with ⟨g, hg, hhas, hgd⟩ | ⟨hnone, -⟩
    · cases hf.symm.trans hg
      refine (hwhole d d' hgd).colon.congr fun s => ?_
      rw [Record.readMember, hf]
      dsimp only
      rw [hhas, if_neg Bool.false_ne_true]
    · rw [hf] at hnone
      cases hnone
  unfold Record.form
  dsimp only
  rw [skipSpace_of_not (by decide)]
  exact congrArg record.finishReading hloop

theorem checked_cut (check : α → Except Misfit β) (h : form.read p = .error .brokenOff) :
    (form.checked check).read p = .error .brokenOff := by
  unfold Form.checked
  dsimp only
  rw [h]

end

end Json
end SinkReporter
