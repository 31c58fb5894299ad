import SinkReporter.Json.Form
import SinkReporter.Proofs.Json.Passing
/-!
# Proofs.Json.Agreement — the two ways of reading data agree

A lawful form reads from a text what it takes from the tree that the text spells.  What it takes from a tree it takes from
the tree in canonical form as well, and when no object names two members alike it takes nothing more from that.  Each way
of building a form out of others keeps this.
-/
namespace SinkReporter
namespace Json

/-- **The laws of a form**: `read` follows `take`, `read` passes over what is well formed, and the canonical form of a tree
gives the same data, unless an object named two members alike. -/
structure Form.Lawful {α : Type} (form : Form α) : Prop where
  follows : ∀ {depth s v rest a r}, Spells depth s v rest → (form.read s = .ok (a, r) ↔ form.take v = .ok a ∧ r = rest)
  passes : ∀ {s a r}, form.read s = .ok (a, r) → Passes s r
  steady : ∀ {v a}, form.take v = .ok a → form.take v.canonical = .ok a
  settled : ∀ {v a}, Distinct v → form.take v.canonical = .ok a → ∃ b, form.take v = .ok b

theorem Form.Lawful.take_canonical {α : Type} {form : Form α} (h : form.Lawful) {v : Value} (hv : Distinct v) {a : α} :
    form.take v.canonical = .ok a ↔ form.take v = .ok a := by
  constructor
  · intro ha
    obtain ⟨b, hb⟩ := h.settled hv ha
    have := h.steady hb
    rw [ha] at this
    cases this
    exact hb
  · exact h.steady

/-! ## Leaves -/

theorem text_read {s r : List Char} {x : String} :
    Form.text.read s = .ok (x, r) ↔ ∃ t, skipSpace s = '"' :: t ∧ readString t = .ok (x, r) := by
  unfold Form.text
  dsimp only
  split
  · rename_i t hs
    simp [hs]
  · rename_i hne
    constructor
    · intro h
      cases h
    · rintro ⟨t, hs, -⟩
      exact absurd hs (hne t)

theorem lawful_text : Form.text.Lawful where
  follows {_ s _ rest x r} h := by
    rw [text_read]
    cases h with
    | null hs _ => simp [hs, Form.text]
    | yes hs _ => simp [hs, Form.text]
    | no hs _ => simp [hs, Form.text]
    | string hs hx => simp [hs, hx, Form.text, eq_comm]
    | number hs hc _ => simp [hs, (number_ne hc).2.2.2.1, Form.text]
    | array hs _ => simp [hs, Form.text]
    | object hs _ => simp [hs, Form.text]
  passes h := by
    obtain ⟨t, hs, hx⟩ := text_read.1 h
    exact .string hs (skipString_of_readString hx)
  steady {v a} h := by cases v <;> simp_all [Form.text, Value.canonical]
  settled {v a} _ h := by cases v <;> simp_all [Form.text, Value.canonical]

theorem boolean_read {s r : List Char} {b : Bool} :
    Form.boolean.read s = .ok (b, r) ↔
      (∃ t, skipSpace s = 't' :: t ∧ expect ['r', 'u', 'e'] t = .ok r ∧ true = b) ∨
      (∃ t, skipSpace s = 'f' :: t ∧ expect ['a', 'l', 's', 'e'] t = .ok r ∧ false = b) := by
  unfold Form.boolean
  dsimp only
  split
  · rename_i t hs
    constructor
    · intro h
      obtain ⟨_, he, heq⟩ := map_eq_ok.1 h
      cases heq
      exact .inl ⟨t, hs, he, rfl⟩
    · rintro (⟨t, ht, he, rfl⟩ | ⟨t, ht, he, rfl⟩)
      · rw [hs] at ht
        cases ht
        exact map_eq_ok.2 ⟨r, he, rfl⟩
      · rw [hs] at ht
        cases ht
  · rename_i t hs
    constructor
    · intro h
      obtain ⟨_, he, heq⟩ := map_eq_ok.1 h
      cases heq
      exact .inr ⟨t, hs, he, rfl⟩
    · rintro (⟨t, ht, he, rfl⟩ | ⟨t, ht, he, rfl⟩)
      · rw [hs] at ht
        cases ht
      · rw [hs] at ht
        cases ht
        exact map_eq_ok.2 ⟨r, he, rfl⟩
  · rename_i hyes hno
    constructor
    · intro h
      cases h
    · rintro (⟨t, hs, -⟩ | ⟨t, hs, -⟩)
      · exact absurd hs (hyes t)
      · exact absurd hs (hno t)

theorem lawful_boolean : Form.boolean.Lawful where
  follows {_ s _ rest b r} h := by
    rw [boolean_read]
    cases h with
    | null hs _ => simp [hs, Form.boolean]
    | yes hs he => simp [hs, he, Form.boolean, eq_comm, and_comm]
    | no hs he => simp [hs, he, Form.boolean, eq_comm, and_comm]
    | string hs hx => simp [hs, Form.boolean]
    | number hs hc _ => simp [hs, (number_ne hc).2.1, (number_ne hc).2.2.1, Form.boolean]
    | array hs _ => simp [hs, Form.boolean]
    | object hs _ => simp [hs, Form.boolean]
  passes h := by
    rcases boolean_read.1 h with ⟨t, hs, he, -⟩ | ⟨t, hs, he, -⟩
    · exact .yes hs he
    · exact .no hs he
  steady {v a} h := by cases v <;> simp_all [Form.boolean, Value.canonical]
  settled {v a} _ h := by cases v <;> simp_all [Form.boolean, Value.canonical]

theorem unit_read {s r : List Char} :
    Form.unit.read s = .ok ((), r) ↔ ∃ t, skipSpace s = 'n' :: t ∧ expect ['u', 'l', 'l'] t = .ok r := by
  unfold Form.unit
  dsimp only
  split
  · rename_i t hs
    simp [hs, map_eq_ok]
  · rename_i hne
    constructor
    · intro h
      cases h
    · rintro ⟨t, hs, -⟩
      exact absurd hs (hne t)

theorem lawful_unit : Form.unit.Lawful where
  follows {_ s _ rest _ r} h := by
    rw [unit_read]
    cases h with
    | null hs he => simp [hs, he, Form.unit, eq_comm]
    | yes hs _ => simp [hs, Form.unit]
    | no hs _ => simp [hs, Form.unit]
    | string hs hx => simp [hs, Form.unit]
    | number hs hc _ => simp [hs, (number_ne hc).1, Form.unit]
    | array hs _ => simp [hs, Form.unit]
    | object hs _ => simp [hs, Form.unit]
  passes h := by
    obtain ⟨t, hs, he⟩ := unit_read.1 h
    exact .null hs he
  steady {v a} h := by cases v <;> simp_all [Form.unit, Value.canonical]
  settled {v a} _ h := by cases v <;> simp_all [Form.unit, Value.canonical]

/-! ## Data that may be missing -/

section

variable {α β : Type} {form : Form α}

theorem optional_read {s r : List Char} {x : Option α} :
    form.optional.read s = .ok (x, r) ↔
      (∃ t, skipSpace s = 'n' :: t ∧ expect ['u', 'l', 'l'] t = .ok r ∧ none = x) ∨
      (∀ t, skipSpace s ≠ 'n' :: t) ∧ ∃ a, form.read (skipSpace s) = .ok (a, r) ∧ some a = x := by
  unfold Form.optional
  dsimp only
  split
  · rename_i t hs
    constructor
    · intro h
      obtain ⟨_, he, heq⟩ := map_eq_ok.1 h
      cases heq
      exact .inl ⟨t, hs, he, rfl⟩
    · rintro (⟨t', ht, he, rfl⟩ | ⟨hne, -⟩)
      · rw [hs] at ht
        cases ht
        exact map_eq_ok.2 ⟨r, he, rfl⟩
      · exact absurd hs (hne t)
  · rename_i hne
    constructor
    · intro h
      obtain ⟨⟨a, _⟩, ha, heq⟩ := map_eq_ok.1 h
      cases heq
      exact .inr ⟨hne, a, ha, rfl⟩
    · rintro (⟨t, ht, -⟩ | ⟨-, a, ha, rfl⟩)
      · exact absurd ht (hne t)
      · exact map_eq_ok.2 ⟨(a, r), ha, rfl⟩

theorem optional_take {v : Value} {x : Option α} (hv : v ≠ .null) :
    form.optional.take v = .ok x ↔ ∃ a, form.take v = .ok a ∧ some a = x := by
  unfold Form.optional
  dsimp only
  split
  · exact absurd rfl hv
  · exact map_eq_ok

theorem canonical_eq_null {v : Value} : v.canonical = .null ↔ v = .null := by
  cases v <;> simp [Value.canonical]

theorem Spells.head_n {depth : Nat} {s t : List Char} {v : Value} {rest : List Char} (h : Spells depth s v rest)
    (hs : skipSpace s = 'n' :: t) : v = .null := by
  cases h with
  | null => rfl
  | yes h | no h | string h | array h | object h =>
    rw [hs] at h
    cases h
  | number h hc =>
    rw [hs] at h
    cases h
    exact absurd rfl (number_ne hc).1

theorem Form.Lawful.optional (hf : form.Lawful) : form.optional.Lawful where
  follows {depth s v rest x r} h := by
    rw [optional_read]
    by_cases hv : v = .null
    · subst hv
      cases h with
      | null hs he => simp [hs, he, Form.optional, eq_comm, and_comm]
    · rw [optional_take hv]
      constructor
      · rintro (⟨t, ht, -⟩ | ⟨-, a, ha, rfl⟩)
        · exact absurd (h.head_n ht) hv
        · obtain ⟨ha, rfl⟩ := (hf.follows (h.of_skipSpace (skipSpace_skipSpace s))).1 ha
          exact ⟨⟨a, ha, rfl⟩, rfl⟩
      · rintro ⟨⟨a, ha, rfl⟩, rfl⟩
        exact .inr ⟨fun t ht => hv (h.head_n ht), a,
          (hf.follows (h.of_skipSpace (skipSpace_skipSpace s))).2 ⟨ha, rfl⟩, rfl⟩
  passes h := by
    rcases optional_read.1 h with ⟨t, hs, he, -⟩ | ⟨-, a, ha, -⟩
    · exact .null hs he
    · exact (hf.passes ha).of_skipSpace
  steady {v x} h := by
    by_cases hv : v = .null
    · rw [hv] at h ⊢
      exact h
    · obtain ⟨a, ha, rfl⟩ := (optional_take hv).1 h
      exact (optional_take (mt canonical_eq_null.1 hv)).2 ⟨a, hf.steady ha, rfl⟩
  settled {v x} hd h := by
    by_cases hv : v = .null
    · rw [hv]
      exact ⟨none, rfl⟩
    · obtain ⟨a, ha, rfl⟩ := (optional_take (mt canonical_eq_null.1 hv)).1 h
      obtain ⟨b, hb⟩ := hf.settled hd ha
      exact ⟨some b, (optional_take hv).2 ⟨b, hb, rfl⟩⟩

/-! ## Lists -/

theorem list_read {s r : List Char} {as : List α} :
    form.list.read s = .ok (as, r) ↔
      ∃ t acc, skipSpace s = '[' :: t ∧
        readItems (fun acc s => (form.read s).map fun (a, r) => (a :: acc, r)) [] t = .ok (acc, r) ∧ acc.reverse = as := by
  unfold Form.list
  dsimp only
  split
  · rename_i t hs
    constructor
    · intro h
      obtain ⟨⟨acc, _⟩, ha, heq⟩ := map_eq_ok.1 h
      cases heq
      exact ⟨t, acc, hs, ha, rfl⟩
    · rintro ⟨t', acc, ht, ha, rfl⟩
      rw [hs] at ht
      cases ht
      exact map_eq_ok.2 ⟨(acc, r), ha, rfl⟩
  · rename_i hne
    constructor
    · intro h
      cases h
    · rintro ⟨t, acc, hs, -⟩
      exact absurd hs (hne t)

theorem readItems_takes (hf : form.Lawful) {depth : Nat} {t rest r : List Char} {items : List Value} {acc : List α}
    (hi : SpellsItems depth true t items rest) :
    readItems (fun acc s => (form.read s).map fun (a, r) => (a :: acc, r)) [] t = .ok (acc, r) ↔
      items.mapM form.take = .ok acc.reverse ∧ r = rest := by
  have hfold : readItems (fun acc s => (form.read s).map fun (a, r) => (a :: acc, r)) [] t = .ok (acc, r) ↔
      items.foldlM (fun acc v => (form.take v).map (· :: acc)) [] = .ok acc ∧ r = rest := by
    refine readItems_spelled (fun {s v u} hv acc acc' r => ?_) hi
    constructor
    · intro h
      obtain ⟨⟨a, _⟩, ha, heq⟩ := map_eq_ok.1 h
      cases heq
      obtain ⟨ha, rfl⟩ := (hf.follows hv).1 ha
      exact ⟨map_eq_ok.2 ⟨a, ha, rfl⟩, rfl⟩
    · rintro ⟨h, rfl⟩
      obtain ⟨a, ha, rfl⟩ := map_eq_ok.1 h
      exact map_eq_ok.2 ⟨(a, r), (hf.follows hv).2 ⟨ha, rfl⟩, rfl⟩
  rw [hfold, foldlM_cons_eq_mapM, map_eq_ok]
  constructor
  · rintro ⟨⟨as, has, rfl⟩, rfl⟩
    rw [List.append_nil, List.reverse_reverse]
    exact ⟨has, rfl⟩
  · rintro ⟨has, rfl⟩
    exact ⟨⟨_, has, by rw [List.append_nil, List.reverse_reverse]⟩, rfl⟩

theorem Form.Lawful.list (hf : form.Lawful) : form.list.Lawful where
  follows {depth s v rest as r} h := by
    rw [list_read]
    cases h with
    | null hs _ => simp [hs, Form.list]
    | yes hs _ => simp [hs, Form.list]
    | no hs _ => simp [hs, Form.list]
    | string hs _ => simp [hs, Form.list]
    | number hs hc _ => simp [hs, (number_ne hc).2.2.2.2.1, Form.list]
    | object hs _ => simp [hs, Form.list]
    | @array depth s t items rest hs hi =>
      constructor
      · rintro ⟨t', acc, ht, ha, rfl⟩
        rw [hs] at ht
        cases ht
        exact (readItems_takes hf hi).1 ha
      · rintro ⟨has, rfl⟩
        refine ⟨t, as.reverse, hs, (readItems_takes hf hi).2 ⟨?_, rfl⟩, List.reverse_reverse as⟩
        rw [List.reverse_reverse]
        exact has
  passes h := by
    obtain ⟨t, acc, hs, ha, -⟩ := list_read.1 h
    refine .array hs (passes_of_foldItems (fun hr => ?_) ha)
    obtain ⟨_, hv, heq⟩ := map_eq_ok.1 hr
    cases heq
    exact hf.passes hv
  steady {v as} h := by
    cases v with
    | array items =>
      rw [Value.canonical, canonicalItems_eq_map]
      exact mapM_map_of (fun v _ a => hf.steady) h
    | _ => exact h
  settled {v as} hd h := by
    cases hd with
    | array hd =>
      rename_i items
      rw [Value.canonical, canonicalItems_eq_map] at h
      refine exists_mapM_iff.2 fun v hv => ?_
      obtain ⟨a, ha⟩ := exists_mapM_iff.1 ⟨as, h⟩ v.canonical (List.mem_map_of_mem hv)
      exact hf.settled (hd v hv) ha
    | object => rw [Value.canonical] at h; cases h
    | _ => exact ⟨as, h⟩

/-! ## Objects of like members -/

def Form.takeNamed (form : Form α) (m : String × Value) : Except Misfit (String × α) :=
  (form.take m.2).map fun a => (m.1, a)

theorem foldlM_putMember_eq (members : List (String × Value)) (acc : List (String × α)) :
    members.foldlM (fun acc m => (form.take m.2).map fun a => putMember m.1 a acc) acc =
      (members.mapM form.takeNamed).map fun named => named.foldl (fun acc m => putMember m.1 m.2 acc) acc := by
  induction members generalizing acc with
  | nil => rfl
  | cons m members ih =>
    rw [List.foldlM_cons, List.mapM_cons, Form.takeNamed]
    cases form.take m.2 with
    | error e => rfl
    | ok a =>
      refine (ih (putMember m.1 a acc)).trans ?_
      cases members.mapM form.takeNamed with
      | error e => rfl
      | ok named => rfl

theorem mapM_takeNamed_iff {members : List (String × Value)} {named : List (String × α)} :
    members.mapM form.takeNamed = .ok named ↔
      (members.map fun m => (m.1, form.take m.2)) = named.map fun m => (m.1, .ok m.2) := by
  induction members generalizing named with
  | nil => cases named <;> simp [pure, Except.pure]
  | cons m members ih =>
    rw [mapM_cons_eq_ok, List.map_cons]
    constructor
    · rintro ⟨_, named, hm, hrest, rfl⟩
      obtain ⟨a, ha, rfl⟩ := map_eq_ok.1 hm
      rw [List.map_cons, ih.1 hrest, ha]
    · intro h
      cases named with
      | nil => cases h
      | cons n named =>
        rw [List.map_cons, List.cons.injEq, Prod.mk.injEq] at h
        obtain ⟨⟨hk, ha⟩, hrest⟩ := h
        exact ⟨n, named, map_eq_ok.2 ⟨n.2, ha, by rw [hk]⟩, ih.2 hrest, rfl⟩

theorem mapM_takeNamed_sortMembers {members : List (String × Value)} {named : List (String × α)}
    (h : members.mapM form.takeNamed = .ok named) :
    (sortMembers members).mapM form.takeNamed = .ok (sortMembers named) := by
  rw [mapM_takeNamed_iff] at h ⊢
  rw [← sortMembers_map, h, sortMembers_map]

theorem map_read {s r : List Char} {named : List (String × α)} :
    form.map.read s = .ok (named, r) ↔
      ∃ t, skipSpace s = '\x7b' :: t ∧
        readMembers (fun key acc s =>
          match expectColon s with
          | .error e => .error e
          | .ok s => (form.read s).map fun (a, r) => (putMember key a acc, r)) [] t = .ok (named, r) := by
  unfold Form.map
  dsimp only
  split
  · rename_i t hs
    constructor
    · exact fun h => ⟨t, hs, h⟩
    · rintro ⟨t', ht, h⟩
      rw [hs] at ht
      cases ht
      exact h
  · rename_i hne
    constructor
    · intro h
      cases h
    · rintro ⟨t, hs, -⟩
      exact absurd hs (hne t)

theorem map_take {members : List (String × Value)} {named : List (String × α)} :
    form.map.take (.object members) = .ok named ↔ ∃ a, members.mapM form.takeNamed = .ok a ∧ sortMembers a = named :=
  map_eq_ok

theorem readMembers_takes (hf : form.Lawful) {depth : Nat} {t rest r : List Char} {members : List (String × Value)}
    {named : List (String × α)} (hm : SpellsMembers depth true t members rest) :
    readMembers (fun key acc s =>
        match expectColon s with
        | .error e => .error e
        | .ok s => (form.read s).map fun (a, r) => (putMember key a acc, r)) [] t = .ok (named, r) ↔
      form.map.take (.object members) = .ok named ∧ r = rest := by
  rw [map_take]
  have hfold : members.foldlM (fun acc m => (form.take m.2).map fun a => putMember m.1 a acc) [] = .ok named ↔
      ∃ a, members.mapM form.takeNamed = .ok a ∧ sortMembers a = named := by
    rw [foldlM_putMember_eq]
    exact map_eq_ok
  rw [← hfold]
  refine readMembers_spelled (fun key {s w v u} hc hv acc acc' r => ?_) hm
  rw [hc]
  dsimp only
  constructor
  · intro h
    obtain ⟨⟨a, _⟩, ha, heq⟩ := map_eq_ok.1 h
    cases heq
    obtain ⟨ha, rfl⟩ := (hf.follows hv).1 ha
    exact ⟨map_eq_ok.2 ⟨a, ha, rfl⟩, rfl⟩
  · rintro ⟨h, rfl⟩
    obtain ⟨a, ha, rfl⟩ := map_eq_ok.1 h
    exact map_eq_ok.2 ⟨(a, r), (hf.follows hv).2 ⟨ha, rfl⟩, rfl⟩

theorem Form.Lawful.map (hf : form.Lawful) : form.map.Lawful where
  follows {depth s v rest named r} h := by
    rw [map_read]
    cases h with
    | null hs _ => simp [hs, Form.map]
    | yes hs _ => simp [hs, Form.map]
    | no hs _ => simp [hs, Form.map]
    | string hs _ => simp [hs, Form.map]
    | number hs hc _ => simp [hs, (number_ne hc).2.2.2.2.2, Form.map]
    | array hs _ => simp [hs, Form.map]
    | @object depth s t members rest hs hm =>
      constructor
      · rintro ⟨t', ht, h⟩
        rw [hs] at ht
        cases ht
        exact (readMembers_takes hf hm).1 h
      · exact fun h => ⟨t, hs, (readMembers_takes hf hm).2 h⟩
  passes h := by
    obtain ⟨t, hs, hm⟩ := map_read.1 h
    refine .object hs (passes_of_foldMembers (fun hr => ?_) hm)
    split at hr
    · cases hr
    rename_i w hc
    obtain ⟨_, hv, heq⟩ := map_eq_ok.1 hr
    cases heq
    exact ⟨w, hc, hf.passes hv⟩
  steady {v named} h := by
    cases v with
    | object members =>
      obtain ⟨a, ha, rfl⟩ := map_take.1 h
      rw [Value.canonical, canonicalMembers_eq_map]
      have hcanonical : (members.map fun m => (m.1, m.2.canonical)).mapM form.takeNamed = .ok a :=
        mapM_map_of (fun m _ n hn => by
          obtain ⟨x, hx, rfl⟩ := map_eq_ok.1 hn
          exact map_eq_ok.2 ⟨x, hf.steady hx, rfl⟩) ha
      exact map_take.2 ⟨_, mapM_takeNamed_sortMembers hcanonical, sortMembers_sortMembers a⟩
    | array items => cases h
    | _ => exact h
  settled {v named} hd h := by
    cases hd with
    | @object members hn hd =>
      rw [Value.canonical, canonicalMembers_eq_map] at h
      obtain ⟨a, ha, -⟩ := map_take.1 h
      -- no member was lost on the way to the canonical form
      have hperm : (sortMembers (members.map fun m => (m.1, m.2.canonical))).Perm _ :=
        sortMembers_perm (by rwa [List.map_map])
      have hall : ∀ m ∈ members, ∃ n, form.takeNamed m = .ok n := fun m hm => by
        have hmem := hperm.mem_iff.2 (List.mem_map_of_mem (f := fun m => (m.1, m.2.canonical)) hm)
        obtain ⟨n, hn⟩ := exists_mapM_iff.1 ⟨a, ha⟩ _ hmem
        obtain ⟨x, hx, -⟩ := map_eq_ok.1 hn
        obtain ⟨y, hy⟩ := hf.settled (hd m hm) hx
        exact ⟨(m.1, y), map_eq_ok.2 ⟨y, hy, rfl⟩⟩
      obtain ⟨b, hb⟩ := exists_mapM_iff.2 hall
      exact ⟨sortMembers b, map_take.2 ⟨b, hb, rfl⟩⟩
    | array => rw [Value.canonical] at h; cases h
    | _ => exact ⟨named, h⟩

/-! ## Checked data -/

theorem checked_read {check : α → Except Misfit β} {s r : List Char} {b : β} :
    (form.checked check).read s = .ok (b, r) ↔ ∃ a, form.read s = .ok (a, r) ∧ check a = .ok b := by
  unfold Form.checked
  dsimp only
  cases form.read s with
  | error e => simp
  | ok p =>
    constructor
    · intro h
      obtain ⟨_, hb, heq⟩ := map_eq_ok.1 h
      cases heq
      exact ⟨p.1, rfl, mapError_eq_ok.1 hb⟩
    · rintro ⟨a, ha, hb⟩
      cases ha
      exact map_eq_ok.2 ⟨b, mapError_eq_ok.2 hb, rfl⟩

theorem checked_take {check : α → Except Misfit β} {v : Value} {b : β} :
    (form.checked check).take v = .ok b ↔ ∃ a, form.take v = .ok a ∧ check a = .ok b :=
  bind_eq_ok

theorem Form.Lawful.checked (hf : form.Lawful) (check : α → Except Misfit β) : (form.checked check).Lawful where
  follows h := by
    rw [checked_read, checked_take]
    constructor
    · rintro ⟨a, ha, hb⟩
      obtain ⟨ha, rfl⟩ := (hf.follows h).1 ha
      exact ⟨⟨a, ha, hb⟩, rfl⟩
    · rintro ⟨⟨a, ha, hb⟩, rfl⟩
      exact ⟨a, (hf.follows h).2 ⟨ha, rfl⟩, hb⟩
  passes h := by
    obtain ⟨a, ha, -⟩ := checked_read.1 h
    exact hf.passes ha
  steady h := by
    obtain ⟨a, ha, hb⟩ := checked_take.1 h
    exact checked_take.2 ⟨a, hf.steady ha, hb⟩
  settled hd h := by
    obtain ⟨a, ha, hb⟩ := checked_take.1 h
    exact ⟨_, checked_take.2 ⟨a, (hf.take_canonical hd).1 ha, hb⟩⟩

/-! ## One of several names -/

variable {names : List String} {ofName? : String → Option α}

theorem choice_take {v : Value} {a : α} :
    (Form.choice names ofName?).take v = .ok a ↔
      (∃ name, v = .string name ∧ ofName? name = some a) ∨
      ∃ name, v = .object [(name, .null)] ∧ ofName? name = some a := by
  unfold Form.choice
  dsimp only
  split
  · rename_i name
    cases hn : ofName? name <;> simp [hn]
  · rename_i name payload
    cases hn : ofName? name with
    | none => simp [hn]
    | some b => cases payload <;> simp [hn, Form.unit, Except.map]
  · rename_i members hne
    simp only [reduceCtorEq, false_iff, not_or, not_exists, not_and]
    exact ⟨(fun name h => by cases h), fun name h => absurd (Value.object.inj h) (hne name .null)⟩
  · rename_i h1 h2 h3
    simp only [reduceCtorEq, false_iff, not_or, not_exists, not_and]
    exact ⟨fun name h => absurd h (h1 name), fun name h => absurd h (h3 _)⟩

theorem choice_read {s r : List Char} {a : α} :
    (Form.choice names ofName?).read s = .ok (a, r) ↔
      (∃ t name, skipSpace s = '"' :: t ∧ readString t = .ok (name, r) ∧ ofName? name = some a) ∨
      ∃ t u name x w y, skipSpace s = '\x7b' :: t ∧ skipSpace t = '"' :: u ∧ readString u = .ok (name, x) ∧
        ofName? name = some a ∧ expectColon x = .ok w ∧ Form.unit.read w = .ok ((), y) ∧ skipSpace y = '\x7d' :: r := by
  unfold Form.choice
  dsimp only
  constructor
  · intro h
    split at h
    · cases h
    · rename_i t hs
      split at h
      · cases h
      rename_i name x hx
      obtain ⟨_, ha, heq⟩ := map_eq_ok.1 h
      cases heq
      split at ha
      · rename_i b hn
        cases ha
        exact .inl ⟨t, name, hs, hx, hn⟩
      · cases ha
    · rename_i t hs
      split at h
      · rename_i u ht
        split at h
        · cases h
        rename_i name x hx
        split at h
        · cases h
        rename_i b hb
        split at h
        · cases h
        rename_i y hy
        obtain ⟨w, hc, hw⟩ := bind_eq_ok.1 hy
        split at h
        · cases h
        rename_i c v hv
        split at h
        · rename_i hbrace
          cases h
          split at hb
          · rename_i b hn
            cases hb
            exact .inr ⟨t, u, name, x, w, y, hs, ht, hx, hn, hc, hw, hbrace ▸ hv⟩
          · cases hb
        · cases h
      · cases h
      · cases h
    · cases h
  · rintro (⟨t, name, hs, hx, hn⟩ | ⟨t, u, name, x, w, y, hs, ht, hx, hn, hc, hw, hy⟩)
    · rw [hs]
      simp only [hx, hn]
      rfl
    · rw [hs]
      simp only [ht]
      rw [hx]
      dsimp only
      rw [hn]
      dsimp only
      rw [hc, Except.bind, hw]
      dsimp only
      rw [hy]
      exact if_pos rfl

theorem Spells.of_quote {depth : Nat} {s t : List Char} {v : Value} {rest : List Char} (h : Spells depth s v rest)
    (hs : skipSpace s = '"' :: t) : ∃ x, v = .string x ∧ readString t = .ok (x, rest) := by
  cases h with
  | string h hx =>
    rw [hs] at h
    cases h
    exact ⟨_, rfl, hx⟩
  | null h | yes h | no h | array h | object h =>
    rw [hs] at h
    cases h
  | number h hc =>
    rw [hs] at h
    cases h
    exact absurd rfl (number_ne hc).2.2.2.1

theorem Spells.of_brace {depth : Nat} {s t : List Char} {v : Value} {rest : List Char} (h : Spells depth s v rest)
    (hs : skipSpace s = '\x7b' :: t) :
    ∃ inner members, v = .object members ∧ SpellsMembers inner true t members rest := by
  cases h with
  | object h hm =>
    rw [hs] at h
    cases h
    exact ⟨_, _, rfl, hm⟩
  | null h | yes h | no h | array h | string h =>
    rw [hs] at h
    cases h
  | number h hc =>
    rw [hs] at h
    cases h
    exact absurd rfl (number_ne hc).2.2.2.2.2

theorem SpellsMembers.of_brace {depth : Nat} {first : Bool} {s t : List Char} {members : List (String × Value)}
    {rest : List Char} (h : SpellsMembers depth first s members rest) (hs : skipSpace s = '\x7d' :: t) :
    members = [] ∧ rest = t := by
  have hdone : nextMember first s = .ok (.done t) := nextMember_done_iff.2 hs
  cases h with
  | done h =>
    rw [hdone] at h
    cases h
    exact ⟨rfl, rfl⟩
  | part h =>
    rw [hdone] at h
    cases h

theorem Spells.of_single {depth : Nat} {s t u x w y rest r : List Char} {v : Value} {name : String}
    (h : Spells depth s v rest) (hs : skipSpace s = '\x7b' :: t) (ht : skipSpace t = '"' :: u)
    (hx : readString u = .ok (name, x)) (hc : expectColon x = .ok w) (hw : Form.unit.read w = .ok ((), y))
    (hy : skipSpace y = '\x7d' :: r) : v = .object [(name, .null)] ∧ r = rest := by
  obtain ⟨inner, members, rfl, hm⟩ := h.of_brace hs
  have hpart := nextMember_first_iff.2 ht
  cases hm with
  | done hnext =>
    rw [hpart] at hnext
    cases hnext
  | part hnext hk hcolon hv hmore =>
    cases hpart.symm.trans hnext
    cases hx.symm.trans hk
    cases hc.symm.trans hcolon
    obtain ⟨hnull, rfl⟩ := (lawful_unit.follows hv).1 hw
    -- the brace after the first member says that there are no others
    obtain ⟨rfl, rfl⟩ := hmore.of_brace hy
    refine ⟨?_, rfl⟩
    rename_i v
    cases v <;> first | rfl | cases hnull

theorem lawful_choice : (Form.choice names ofName?).Lawful where
  follows {depth s v rest a r} h := by
    rw [choice_read, choice_take]
    constructor
    · rintro (⟨t, name, hs, hx, hn⟩ | ⟨t, u, name, x, w, y, hs, ht, hx, hn, hc, hw, hy⟩)
      · obtain ⟨name', rfl, hx'⟩ := h.of_quote hs
        rw [hx] at hx'
        cases hx'
        exact ⟨.inl ⟨name, rfl, hn⟩, rfl⟩
      · obtain ⟨rfl, rfl⟩ := h.of_single hs ht hx hc hw hy
        exact ⟨.inr ⟨name, rfl, hn⟩, rfl⟩
    · rintro ⟨⟨name, rfl, hn⟩ | ⟨name, rfl, hn⟩, rfl⟩
      · cases h with
        | string hs hx => exact .inl ⟨_, name, hs, hx, hn⟩
      · cases h with
        | object hs hm =>
          cases hm with
          | part hnext hk hc hv hmore =>
            cases hmore with
            | done hdone =>
              exact .inr ⟨_, _, name, _, _, _, hs, nextMember_first_iff.1 hnext, hk, hn, hc,
                (lawful_unit.follows hv).2 ⟨rfl, rfl⟩, nextMember_done_iff.1 hdone⟩
  passes h := by
    rcases choice_read.1 h with ⟨t, name, hs, hx, -⟩ | ⟨t, u, name, x, w, y, hs, ht, hx, -, hc, hw, hy⟩
    · exact .string hs (skipString_of_readString hx)
    · exact .object hs (.part (nextMember_first_iff.2 ht) (skipString_of_readString hx) hc (lawful_unit.passes hw)
        (.done (nextMember_done_iff.2 hy)))
  steady {v a} h := by
    rcases choice_take.1 h with ⟨name, rfl, hn⟩ | ⟨name, rfl, hn⟩
    · exact h
    · exact h
  settled {v a} hd h := by
    cases hd with
    | @object members hn hd =>
      rw [Value.canonical, canonicalMembers_eq_map] at h
      rcases choice_take.1 h with ⟨name, heq, -⟩ | ⟨name, heq, hname⟩
      · cases heq
      · have hperm : (sortMembers (members.map fun m => (m.1, m.2.canonical))).Perm _ :=
          sortMembers_perm (by rwa [List.map_map])
        rw [Value.object.inj heq] at hperm
        have hmap := List.perm_singleton.1 hperm.symm
        obtain ⟨m, rfl, hm⟩ := List.map_eq_singleton_iff.1 hmap
        rw [Prod.mk.injEq] at hm
        have hnull := canonical_eq_null.1 hm.2
        exact ⟨a, choice_take.2 (.inr ⟨name, by rw [← hm.1, ← hnull], hname⟩)⟩
    | array => rw [Value.canonical] at h; cases h
    | _ => exact ⟨a, h⟩

/-! ## Whole texts -/

/-- A text that is a value, no object anywhere in it naming two members alike. -/
def NoRepeats (text : String) : Prop := ∃ tree, Spelled text tree ∧ Distinct tree

theorem ofText_eq_ok {text : String} {a : α} :
    form.ofText text = .ok a ↔ ∃ rest, form.read text.toList = .ok (a, rest) ∧ skipSpace rest = [] := by
  unfold Form.ofText
  constructor
  · intro h
    split at h
    · cases h
    rename_i b rest hb
    obtain ⟨_, he, rfl⟩ := map_eq_ok.1 h
    exact ⟨rest, hb, expectEnd_eq_ok.1 he⟩
  · rintro ⟨rest, ha, he⟩
    rw [ha]
    exact map_eq_ok.2 ⟨(), expectEnd_eq_ok.2 he, rfl⟩

theorem ofParsedText_eq_ok {text : String} {a : α} :
    form.ofParsedText text = .ok a ↔ ∃ tree, Spelled text tree ∧ form.take tree.canonical = .ok a := by
  unfold Form.ofParsedText
  constructor
  · intro h
    split at h
    · cases h
    rename_i v hv
    obtain ⟨tree, htree, rfl⟩ := parse_eq_ok_iff.1 hv
    exact ⟨tree, htree, mapError_eq_ok.1 h⟩
  · rintro ⟨tree, htree, ha⟩
    rw [parse_eq_ok_iff.2 ⟨tree, htree, rfl⟩]
    exact mapError_eq_ok.2 ha

variable {text : String} {tree : Value} {a b : α}

theorem Form.Lawful.ofText_iff (hf : form.Lawful) (h : Spelled text tree) :
    form.ofText text = .ok a ↔ form.take tree = .ok a := by
  obtain ⟨rest, hs, he⟩ := h
  rw [ofText_eq_ok]
  constructor
  · rintro ⟨r, ha, -⟩
    exact ((hf.follows hs).1 ha).1
  · exact fun ha => ⟨rest, (hf.follows hs).2 ⟨ha, rfl⟩, he⟩

/-- **When both ways of reading a text go well, they give the same data.** -/
theorem Form.Lawful.agree (hf : form.Lawful) (ha : form.ofText text = .ok a) (hb : form.ofParsedText text = .ok b) :
    a = b := by
  obtain ⟨tree, htree, hb⟩ := ofParsedText_eq_ok.1 hb
  have := hf.steady ((hf.ofText_iff htree).1 ha)
  rw [hb] at this
  cases this
  rfl

theorem Form.Lawful.read_spelled (hf : form.Lawful) (h : Spelled text tree) (ha : form.take tree = .ok a) :
    form.ofText text = .ok a ∧ form.ofParsedText text = .ok a :=
  ⟨(hf.ofText_iff h).2 ha, ofParsedText_eq_ok.2 ⟨tree, h, hf.steady ha⟩⟩

/-- **Where no object names two members alike, one way of reading goes well when the other does.** -/
theorem Form.Lawful.exists_iff (hf : form.Lawful) (h : NoRepeats text) :
    (∃ a, form.ofText text = .ok a) ↔ ∃ a, form.ofParsedText text = .ok a := by
  obtain ⟨tree, htree, hd⟩ := h
  constructor
  · rintro ⟨a, ha⟩
    exact ⟨a, (hf.read_spelled htree ((hf.ofText_iff htree).1 ha)).2⟩
  · rintro ⟨a, ha⟩
    unfold Form.ofParsedText at ha
    rw [parse_eq_ok_iff.2 ⟨tree, htree, rfl⟩] at ha
    exact ⟨a, (hf.ofText_iff htree).2 ((hf.take_canonical hd).1 (mapError_eq_ok.1 ha))⟩

end

end Json
end SinkReporter
