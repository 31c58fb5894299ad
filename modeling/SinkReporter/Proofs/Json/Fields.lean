import SinkReporter.Json.Record
import SinkReporter.Proofs.Json.Agreement
/-!
# Proofs.Json.Fields — records are read alike from a text and from a tree

A field is lawful when its form is.  Fields are apart when each leaves what the other has put into a draft alone.  The
members of an object may then be taken in any order (`Record.Lawful.exchange`), and so the form of a record is lawful.
-/
namespace SinkReporter
namespace Json

/-! ## Fields -/

structure Field.Lawful {ρ : Type} (f : Field ρ) : Prop where
  follows : ∀ {depth s v rest d d' r}, Spells depth s v rest → (f.read d s = .ok (d', r) ↔ f.take d v = .ok d' ∧ r = rest)
  passes : ∀ {s d d' r}, f.read d s = .ok (d', r) → Passes s r
  steady : ∀ {v d d'}, f.take d v = .ok d' → f.take d v.canonical = .ok d'
  settled : ∀ {v d d'}, Distinct v → f.take d v.canonical = .ok d' → f.take d v = .ok d'
  has_take : ∀ {v d d'}, f.take d v = .ok d' → f.has d' = true
  has_read : ∀ {s d d' r}, f.read d s = .ok (d', r) → f.has d' = true

/-- **Two fields keep out of each other's way.** -/
structure Field.Apart {ρ : Type} (f g : Field ρ) : Prop where
  frame_take : ∀ {v d d'}, f.take d v = .ok d' → g.has d' = g.has d
  frame_read : ∀ {s d d' r}, f.read d s = .ok (d', r) → g.has d' = g.has d
  swap : ∀ {a b c v w}, f.take a v = .ok b → g.take b w = .ok c → ∃ b', g.take a w = .ok b' ∧ f.take b' v = .ok c

section

variable {ρ α β : Type} {form : Form α} {form' : Form β} {name name' : String} {get : ρ → Option α} {put : ρ → α → ρ}
  {get' : ρ → Option β} {put' : ρ → β → ρ} {ends ends' : Bool}

theorem Field.lawful_of (hf : form.Lawful) (hput : ∀ d a, (get (put d a)).isSome) :
    (Field.of name form get put ends).Lawful where
  follows {depth s v rest d d' r} h := by
    refine (map_eq_ok (f := fun (x : α × List Char) => (put d x.1, x.2))).trans ?_
    constructor
    · rintro ⟨⟨a, _⟩, ha, heq⟩
      cases heq
      obtain ⟨ha, rfl⟩ := (hf.follows h).1 ha
      exact ⟨map_eq_ok.2 ⟨a, ha, rfl⟩, rfl⟩
    · rintro ⟨h', rfl⟩
      obtain ⟨a, ha, rfl⟩ := map_eq_ok.1 h'
      exact ⟨(a, r), (hf.follows h).2 ⟨ha, rfl⟩, rfl⟩
  passes h := by
    obtain ⟨_, ha, heq⟩ := map_eq_ok.1 h
    cases heq
    exact hf.passes ha
  steady h := by
    obtain ⟨a, ha, rfl⟩ := map_eq_ok.1 h
    exact map_eq_ok.2 ⟨a, hf.steady ha, rfl⟩
  settled hd h := by
    obtain ⟨a, ha, rfl⟩ := map_eq_ok.1 h
    exact map_eq_ok.2 ⟨a, (hf.take_canonical hd).1 ha, rfl⟩
  has_take h := by
    obtain ⟨a, -, rfl⟩ := map_eq_ok.1 h
    exact hput _ a
  has_read h := by
    obtain ⟨x, -, heq⟩ := map_eq_ok.1 h
    cases heq
    exact hput _ x.1

theorem Field.apart_of (hget : ∀ d a, (get' (put d a)).isSome = (get' d).isSome)
    (hput : ∀ d a b, put' (put d a) b = put (put' d b) a) :
    (Field.of name form get put ends).Apart (Field.of name' form' get' put' ends') where
  frame_take h := by
    obtain ⟨a, -, rfl⟩ := map_eq_ok.1 h
    exact hget _ a
  frame_read h := by
    obtain ⟨x, -, heq⟩ := map_eq_ok.1 h
    cases heq
    exact hget _ x.1
  swap h h' := by
    obtain ⟨a, ha, rfl⟩ := map_eq_ok.1 h
    obtain ⟨b, hb, rfl⟩ := map_eq_ok.1 h'
    exact ⟨_, map_eq_ok.2 ⟨b, hb, rfl⟩, map_eq_ok.2 ⟨a, ha, (hput _ a b).symm⟩⟩

end

/-! ## Records -/

namespace Record

variable {ρ α : Type} {record : Record ρ α}

structure Lawful (record : Record ρ α) : Prop where
  field : ∀ f ∈ record.fields, f.Lawful
  pairwise : record.fields.Pairwise fun f g => f.Apart g ∧ g.Apart f

theorem of_pairwise {R : Field ρ → Field ρ → Prop} {fields : List (Field ρ)}
    (h : fields.Pairwise fun f g => R f g ∧ R g f) {f g : Field ρ} (hf : f ∈ fields) (hg : g ∈ fields)
    (hne : f.name ≠ g.name) : R f g := by
  induction h with
  | nil => cases hf
  | cons h _ ih =>
    rcases List.mem_cons.1 hf with rfl | hf'
    · rcases List.mem_cons.1 hg with rfl | hg'
      · exact absurd rfl hne
      · exact (h g hg').1
    · rcases List.mem_cons.1 hg with rfl | hg'
      · exact (h f hf').2
      · exact ih hf' hg'

theorem Lawful.apart (h : record.Lawful) {f g : Field ρ} (hf : f ∈ record.fields) (hg : g ∈ record.fields)
    (hne : f.name ≠ g.name) : f.Apart g :=
  of_pairwise h.pairwise hf hg hne

def takeMember (record : Record ρ α) (d : ρ) (m : String × Value) : Except Misfit ρ :=
  match record.field? m.1 with
  | some f => if f.has d then .error (.duplicateField m.1) else f.take d m.2
  | none => if record.exact then .error (.unknownField m.1 record.names) else .ok d

theorem takeMembers_eq_foldlM (d : ρ) (members : List (String × Value)) :
    record.takeMembers d members = members.foldlM record.takeMember d := by
  induction members generalizing d with
  | nil => rfl
  | cons m members ih =>
    obtain ⟨key, value⟩ := m
    rw [takeMembers, List.foldlM_cons, takeMember]
    dsimp only
    cases record.field? key with
    | some f =>
      dsimp only
      split
      · rfl
      cases f.take d value with
      | error e => rfl
      | ok d' => exact ih d'
    | none =>
      dsimp only
      split
      · rfl
      · exact ih d

theorem takeMember_eq_ok {d d' : ρ} {m : String × Value} :
    record.takeMember d m = .ok d' ↔
      (∃ f, record.field? m.1 = some f ∧ f.has d = false ∧ f.take d m.2 = .ok d') ∨
      (record.field? m.1 = none ∧ record.exact = false ∧ d = d') := by
  unfold takeMember
  cases hf : record.field? m.1 with
  | some f => cases hd : f.has d <;> simp [hd]
  | none => cases hx : record.exact <;> simp

theorem mem_of_field? {key : String} {f : Field ρ} (h : record.field? key = some f) : f ∈ record.fields ∧ f.name = key :=
  ⟨List.mem_of_find?_eq_some h, by simpa using List.find?_some h⟩

theorem takeMember_of {d d' : ρ} {key : String} {v w : Value}
    (h : ∀ f ∈ record.fields, ∀ {a b}, f.take a v = .ok b → f.take a w = .ok b)
    (hm : record.takeMember d (key, v) = .ok d') : record.takeMember d (key, w) = .ok d' := by
  rw [takeMember_eq_ok] at hm ⊢
  rcases hm with ⟨f, hf, hd, ht⟩ | hm
  · exact .inl ⟨f, hf, hd, h f (mem_of_field? hf).1 ht⟩
  · exact .inr hm

theorem takeMember_put {β : Type} {name : String} {form : Form β} {get : ρ → Option β} {put : ρ → β → ρ} {ends : Bool}
    {d : ρ} {v : Value} {x : β} (hf : record.field? name = some (.of name form get put ends)) (hd : get d = none)
    (hx : form.take v = .ok x) : record.takeMember d (name, v) = .ok (put d x) := by
  refine takeMember_eq_ok.2 (.inl ⟨_, hf, ?_, map_eq_ok.2 ⟨x, hx, rfl⟩⟩)
  show (get d).isSome = false
  rw [hd]
  rfl

/-- **Members change places**: a field given twice is refused, and fields of different names are apart. -/
theorem Lawful.exchange (h : record.Lawful) : Exchange record.takeMember where
  swap {a b c m n} hm hn := by
    rw [takeMember_eq_ok] at hm hn
    rcases hm with ⟨f, hf, hfa, hfb⟩ | ⟨hf, hx, rfl⟩
    · rcases hn with ⟨g, hg, hgb, hgc⟩ | ⟨hg, hx, rfl⟩
      · obtain ⟨hfmem, hfname⟩ := mem_of_field? hf
        obtain ⟨hgmem, hgname⟩ := mem_of_field? hg
        by_cases hname : m.1 = n.1
        · -- the second would find the field in the draft
          rw [hname, hg] at hf
          cases hf
          rw [(h.field _ hfmem).has_take hfb] at hgb
          cases hgb
        · have hfg : f.name ≠ g.name := by rwa [hfname, hgname]
          have hga := (h.apart hfmem hgmem hfg).frame_take hfb
          obtain ⟨b', hb', hc⟩ := (h.apart hfmem hgmem hfg).swap hfb hgc
          have hfb' := (h.apart hgmem hfmem hfg.symm).frame_take hb'
          exact ⟨b', takeMember_eq_ok.2 (.inl ⟨g, hg, hga.symm.trans hgb, hb'⟩),
            takeMember_eq_ok.2 (.inl ⟨f, hf, hfb'.trans hfa, hc⟩)⟩
      · exact ⟨a, takeMember_eq_ok.2 (.inr ⟨hg, hx, rfl⟩), takeMember_eq_ok.2 (.inl ⟨f, hf, hfa, hfb⟩)⟩
    · exact ⟨c, takeMember_eq_ok.2 hn, takeMember_eq_ok.2 (.inr ⟨hf, hx, rfl⟩)⟩
  again {a b c key v w} hv hw := by
    rw [takeMember_eq_ok] at hv hw
    rcases hv with ⟨f, hf, hfa, hfb⟩ | ⟨hf, hx, rfl⟩
    · rcases hw with ⟨g, hg, hgb, -⟩ | ⟨hg, -⟩
      · obtain rfl := Option.some.inj (hf.symm.trans hg)
        rw [(h.field _ (mem_of_field? hf).1).has_take hfb] at hgb
        cases hgb
      · rw [hf] at hg
        cases hg
    · exact takeMember_eq_ok.2 hw

/-! ## What is taken -/

theorem take_array {items : List Value} {a : α} :
    record.form.take (.array items) = .ok a ↔
      ∃ d, record.takeItems record.fields 0 record.blank items = .ok (d, []) ∧ record.finish d = .ok a := by
  unfold form
  dsimp only
  constructor
  · intro h
    split at h
    · cases h
    rename_i d rest hd
    split at h
    · cases h
    rename_i b hb
    split at h
    · rename_i hrest
      cases h
      rw [List.isEmpty_iff.1 hrest] at hd
      exact ⟨d, hd, hb⟩
    · cases h
  · rintro ⟨d, hd, ha⟩
    rw [hd]
    dsimp only
    rw [ha]
    rfl

theorem take_object {members : List (String × Value)} {a : α} :
    record.form.take (.object members) = .ok a ↔
      ∃ d, members.foldlM record.takeMember record.blank = .ok d ∧ record.finish d = .ok a := by
  rw [← takeMembers_eq_foldlM]
  exact bind_eq_ok

theorem takeItems_map {p q : Value → Value} : ∀ {fields : List (Field ρ)} {items : List Value} {index : Nat} {d d' : ρ},
    (∀ f ∈ fields, ∀ v ∈ items, ∀ {a b}, f.take a (p v) = .ok b → f.take a (q v) = .ok b) →
    record.takeItems fields index d (items.map p) = .ok (d', []) →
    record.takeItems fields index d (items.map q) = .ok (d', [])
  | [], [], _, _, _, _, h => h
  | [], _ :: _, _, _, _, _, h => by cases h
  | _ :: _, [], _, _, _, _, h => h
  | f :: fields, v :: items, index, d, d', hpq, h => by
    rw [List.map_cons, takeItems] at h ⊢
    split at h
    · cases h
    rename_i e he
    rw [hpq f List.mem_cons_self v List.mem_cons_self he]
    exact takeItems_map (fun f hf v hv => hpq f (List.mem_cons_of_mem _ hf) v (List.mem_cons_of_mem _ hv)) h

/-! ## What is read -/

theorem closeItems_eq_ok {s r : List Char} : closeItems s = .ok r ↔ skipSpace s = ']' :: r := by
  unfold closeItems
  split
  · rename_i hs
    simp [hs]
  · rename_i c rest hs
    by_cases hc : c = ']' <;> simp [hs, hc]

theorem finishReading_eq_ok {x : Reading ρ} {a : α} {r : List Char} :
    record.finishReading x = .ok (a, r) ↔ ∃ d, x = .ok (d, r) ∧ record.finish d = .ok a := by
  cases x with
  | error e => simp [finishReading]
  | ok p =>
    rw [finishReading, map_eq_ok]
    constructor
    · rintro ⟨_, ha, heq⟩
      cases heq
      exact ⟨p.1, rfl, mapError_eq_ok.1 ha⟩
    · rintro ⟨d, hd, ha⟩
      cases hd
      exact ⟨a, mapError_eq_ok.2 ha, rfl⟩

theorem readItems_iff {depth : Nat} : ∀ {fields : List (Field ρ)} {index : Nat} {d d' : ρ} {items : List Value}
    {s rest r : List Char}, (∀ f ∈ fields, f.Lawful) → SpellsItems depth (index = 0) s items rest →
    (record.readItems fields index d s = .ok (d', r) ↔ record.takeItems fields index d items = .ok (d', []) ∧ r = rest)
  | [], index, d, d', _, s, rest, r, _, .done hn => by
    rw [readItems, takeItems, map_eq_ok]
    have hclose := closeItems_eq_ok.2 (nextItem_done_iff.1 hn)
    simp [hclose, eq_comm]
  | [], index, d, d', _, s, rest, r, _, .part hn _ _ => by
    rw [readItems, takeItems, map_eq_ok]
    constructor
    · rintro ⟨t, ht, -⟩
      rw [nextItem_done_iff.2 (closeItems_eq_ok.1 ht)] at hn
      cases hn
    · rintro ⟨h, -⟩
      cases h
  | f :: fields, index, d, d', _, s, rest, r, _, .done hn => by
    rw [readItems, hn, takeItems, map_eq_ok, map_eq_ok]
    constructor
    · rintro ⟨u, hu, heq⟩
      cases heq
      exact ⟨⟨u, mapError_eq_ok.1 hu, rfl⟩, rfl⟩
    · rintro ⟨⟨u, hu, heq⟩, rfl⟩
      cases heq
      exact ⟨u, mapError_eq_ok.2 hu, rfl⟩
  | f :: fields, index, d, d', _, s, rest, r, hl, .part (v := v) hn hv hi => by
    obtain ⟨hf, hfields⟩ := List.forall_mem_cons.1 hl
    rw [readItems, hn, takeItems]
    dsimp only
    cases ht : f.take d v with
    | error e =>
      cases hr : f.read d _ with
      | error e' => simp
      | ok p =>
        obtain ⟨ht', -⟩ := (hf.follows hv).1 hr
        rw [ht] at ht'
        cases ht'
    | ok b =>
      rw [(hf.follows hv).2 ⟨ht, rfl⟩]
      exact readItems_iff hfields hi

/-- A member is read into a field that the draft does not have yet, or else it is passed over. -/
theorem readMember_eq_ok {key : String} {d d' : ρ} {s r : List Char} :
    record.readMember key d s = .ok (d', r) ↔
      (∃ f w, record.field? key = some f ∧ f.has d = false ∧ expectColon s = .ok w ∧ f.read d w = .ok (d', r)) ∨
      (record.field? key = none ∧ record.exact = false ∧ d = d' ∧ ∃ w, expectColon s = .ok w ∧ skipValue w = .ok r) := by
  unfold readMember
  cases hf : record.field? key with
  | some f =>
    dsimp only
    cases hd : f.has d with
    | true => simp [hd]
    | false =>
      rw [if_neg Bool.false_ne_true, bind_eq_ok]
      simp [hd]
  | none =>
    dsimp only
    cases hx : record.exact with
    | true => simp
    | false =>
      rw [if_neg Bool.false_ne_true, map_eq_ok]
      simp only [bind_eq_ok, Prod.mk.injEq]
      constructor
      · rintro ⟨_, hw, rfl, rfl⟩
        exact .inr ⟨trivial, trivial, rfl, hw⟩
      · rintro (⟨f, w, h, -⟩ | ⟨-, -, rfl, hw⟩)
        · cases h
        · exact ⟨r, hw, rfl, rfl⟩

theorem readMember_iff (h : record.Lawful) {depth : Nat} {key : String} {s w u r : List Char} {v : Value} {d d' : ρ}
    (hc : expectColon s = .ok w) (hv : Spells depth w v u) :
    record.readMember key d s = .ok (d', r) ↔ record.takeMember d (key, v) = .ok d' ∧ r = u := by
  rw [readMember, takeMember]
  dsimp only
  cases hf : record.field? key with
  | some f =>
    dsimp only
    split
    · simp
    · rw [hc]
      exact (h.field f (mem_of_field? hf).1).follows hv
  | none =>
    dsimp only
    split
    · simp
    · rw [hc, Except.bind, skipValue_eq_ok_iff.2 hv.passes]
      simp [Except.map, eq_comm]

theorem readMembers_iff (h : record.Lawful) {depth : Nat} {t rest r : List Char} {members : List (String × Value)}
    {d d' : ρ} (hm : SpellsMembers depth true t members rest) :
    readMembers record.readMember d t = .ok (d', r) ↔ members.foldlM record.takeMember d = .ok d' ∧ r = rest := by
  apply readMembers_spelled ?_ hm
  intro key s w v u hc hv a b r
  exact readMember_iff h hc hv

theorem passes_of_readItems : ∀ {fields : List (Field ρ)} {index : Nat} {d d' : ρ} {s r : List Char},
    (∀ f ∈ fields, f.Lawful) → record.readItems fields index d s = .ok (d', r) → PassesItems (index = 0) s r
  | [], index, d, d', s, r, _, h => by
    obtain ⟨t, ht, heq⟩ := map_eq_ok.1 h
    cases heq
    exact .done (nextItem_done_iff.2 (closeItems_eq_ok.1 ht))
  | f :: fields, index, d, d', s, r, hl, h => by
    obtain ⟨hf, hfields⟩ := List.forall_mem_cons.1 hl
    rw [readItems] at h
    split at h
    · cases h
    · rename_i t hn
      obtain ⟨_, -, heq⟩ := map_eq_ok.1 h
      cases heq
      exact .done hn
    · rename_i t hn
      split at h
      · cases h
      rename_i b u hu
      exact .part hn (hf.passes hu) (passes_of_readItems hfields h)

theorem passes_of_readMember (h : record.Lawful) {key : String} {s r : List Char} {d d' : ρ}
    (hr : record.readMember key d s = .ok (d', r)) : ∃ w, expectColon s = .ok w ∧ Passes w r := by
  rw [readMember] at hr
  split at hr
  · rename_i f hf
    split at hr
    · cases hr
    obtain ⟨w, hc, hw⟩ := bind_eq_ok.1 hr
    exact ⟨w, hc, (h.field f (mem_of_field? hf).1).passes hw⟩
  · split at hr
    · cases hr
    obtain ⟨x, hx, heq⟩ := map_eq_ok.1 hr
    cases heq
    obtain ⟨w, hc, hw⟩ := bind_eq_ok.1 hx
    exact ⟨w, hc, skipValue_eq_ok_iff.1 hw⟩

theorem read_form {s r : List Char} {a : α} :
    record.form.read s = .ok (a, r) ↔
      (∃ t d, skipSpace s = '[' :: t ∧ record.readItems record.fields 0 record.blank t = .ok (d, r) ∧
        record.finish d = .ok a) ∨
      ∃ t d, skipSpace s = '\x7b' :: t ∧ readMembers record.readMember record.blank t = .ok (d, r) ∧
        record.finish d = .ok a := by
  unfold form
  dsimp only
  split
  · rename_i t hs
    rw [finishReading_eq_ok]
    simp [hs]
  · rename_i t hs
    rw [finishReading_eq_ok]
    simp [hs]
  · rename_i h1 h2
    simp_all

/-- **The form of a lawful record is lawful.** -/
theorem Lawful.form (h : record.Lawful) : record.form.Lawful where
  follows {depth s v rest a r} hv := by
    rw [read_form]
    cases hv with
    | null hs _ => simp [hs, Record.form]
    | yes hs _ => simp [hs, Record.form]
    | no hs _ => simp [hs, Record.form]
    | string hs _ => simp [hs, Record.form]
    | number hs hc _ => simp [hs, (number_ne hc).2.2.2.2.1, (number_ne hc).2.2.2.2.2, Record.form]
    | @array depth s t items rest hs hi =>
      rw [take_array]
      constructor
      · rintro (⟨t', d, ht, hd, ha⟩ | ⟨t', d, ht, -⟩)
        · rw [hs] at ht
          cases ht
          obtain ⟨hd, rfl⟩ := (readItems_iff h.field hi).1 hd
          exact ⟨⟨d, hd, ha⟩, rfl⟩
        · rw [hs] at ht
          cases ht
      · rintro ⟨⟨d, hd, ha⟩, rfl⟩
        exact .inl ⟨t, d, hs, (readItems_iff h.field hi).2 ⟨hd, rfl⟩, ha⟩
    | @object depth s t members rest hs hm =>
      rw [take_object]
      constructor
      · rintro (⟨t', d, ht, -⟩ | ⟨t', d, ht, hd, ha⟩)
        · rw [hs] at ht
          cases ht
        · rw [hs] at ht
          cases ht
          obtain ⟨hd, rfl⟩ := (readMembers_iff h hm).1 hd
          exact ⟨⟨d, hd, ha⟩, rfl⟩
      · rintro ⟨⟨d, hd, ha⟩, rfl⟩
        exact .inr ⟨t, d, hs, (readMembers_iff h hm).2 ⟨hd, rfl⟩, ha⟩
  passes hr := by
    rcases read_form.1 hr with ⟨t, d, hs, hd, -⟩ | ⟨t, d, hs, hd, -⟩
    · exact .array hs (passes_of_readItems h.field hd)
    · exact .object hs (passes_of_foldMembers (passes_of_readMember h) hd)
  steady {v a} ha := by
    cases v with
    | array items =>
      obtain ⟨d, hd, ha⟩ := take_array.1 ha
      rw [Value.canonical, canonicalItems_eq_map]
      refine take_array.2 ⟨d, takeItems_map (p := id) (fun f hf v _ => (h.field f hf).steady) ?_, ha⟩
      rwa [List.map_id]
    | object members =>
      obtain ⟨d, hd, ha⟩ := take_object.1 ha
      rw [Value.canonical, canonicalMembers_eq_map]
      have hcanonical : (members.map fun m => (m.1, m.2.canonical)).foldlM record.takeMember record.blank = .ok d := by
        refine foldlM_map_of (p := id) (fun m _ {_ _} hm => takeMember_of (fun f hf => (h.field f hf).steady) hm) ?_
        rwa [List.map_id]
      exact take_object.2 ⟨d, foldlM_sortMembers h.exchange hcanonical, ha⟩
    | _ => exact ha
  settled {v a} hd ha := by
    cases hd with
    | @array items hd =>
      rw [Value.canonical, canonicalItems_eq_map] at ha
      obtain ⟨d, htake, ha⟩ := take_array.1 ha
      refine ⟨a, take_array.2 ⟨d, ?_, ha⟩⟩
      have := takeItems_map (q := id) (fun f hf v hv {_ _} => (h.field f hf).settled (hd v hv)) htake
      rwa [List.map_id] at this
    | @object members hn hd =>
      rw [Value.canonical, canonicalMembers_eq_map] at ha
      obtain ⟨d, htake, ha⟩ := take_object.1 ha
      have hcanonical := foldlM_of_sortMembers h.exchange (by rwa [List.map_map]) htake
      have := foldlM_map_of (q := id)
        (fun m hm {_ _} hmem => takeMember_of (fun f hf {_ _} => (h.field f hf).settled (hd m hm)) hmem) hcanonical
      rw [List.map_id] at this
      exact ⟨a, take_object.2 ⟨d, this, ha⟩⟩
    | _ => exact ⟨a, ha⟩

end Record

/-! ## Names that come twice -/

/-- The names of the members of an object, each value passed over, as far as they are well formed. -/
def memberNames : Nat → Bool → List Char → List String
  | 0, _, _ => []
  | fuel + 1, first, s =>
    match nextMember first s with
    | .ok (.part t) =>
      match readString t with
      | .error _ => []
      | .ok (key, u) =>
        match (expectColon u).bind skipValue with
        | .error _ => [key]
        | .ok rest => key :: memberNames fuel false rest
    | _ => []

/-- **The names of the members of the object that a text starts with.** -/
def topNames (s : List Char) : List String :=
  match skipSpace s with
  | '\x7b' :: rest => memberNames (rest.length + 1) true rest
  | _ => []

theorem memberNames_of_spells : ∀ {depth : Nat} {first : Bool} {s : List Char} {members : List (String × Value)}
    {rest : List Char} {fuel : Nat}, SpellsMembers depth first s members rest → members.length < fuel →
    memberNames fuel first s = members.map (·.1)
  | _, _, _, _, _, 0, _, hf => absurd hf (Nat.not_lt_zero _)
  | _, _, _, _, _, fuel + 1, .done hn, _ => by
    rw [memberNames, hn]
    rfl
  | _, _, _, _, _, fuel + 1, .part hn hk hc hv hm, hf => by
    rw [memberNames, hn]
    dsimp only
    rw [hk]
    dsimp only
    rw [hc, Except.bind, skipValue_eq_ok_iff.2 hv.passes]
    exact congrArg _ (memberNames_of_spells hm (Nat.lt_of_succ_lt_succ hf))

theorem topNames_of_spells {depth : Nat} {s rest : List Char} {members : List (String × Value)}
    (h : Spells depth s (.object members) rest) : topNames s = members.map (·.1) := by
  cases h with
  | object hs hm =>
    rw [topNames, hs]
    have := hm.length_lt
    exact memberNames_of_spells hm (by omega)

namespace Record

variable {ρ α : Type} {record : Record ρ α}

theorem has_of_readMember (h : record.Lawful) {key : String} {f : Field ρ} (hf : record.field? key = some f) {d d' : ρ}
    {s r : List Char} (hr : record.readMember key d s = .ok (d', r)) : f.has d = false ∧ f.has d' = true := by
  rw [readMember, hf] at hr
  dsimp only at hr
  split at hr
  · cases hr
  rename_i hd
  obtain ⟨w, -, hw⟩ := bind_eq_ok.1 hr
  exact ⟨Bool.eq_false_iff.2 hd, (h.field f (mem_of_field? hf).1).has_read hw⟩

theorem has_of_readMember_ne (h : record.Lawful) {key key' : String} {f : Field ρ} (hf : record.field? key = some f)
    (hne : key' ≠ key) {d d' : ρ} {s r : List Char} (hr : record.readMember key' d s = .ok (d', r)) :
    f.has d' = f.has d := by
  rw [readMember] at hr
  split at hr
  · rename_i g hg
    split at hr
    · cases hr
    obtain ⟨w, -, hw⟩ := bind_eq_ok.1 hr
    obtain ⟨hfmem, hfname⟩ := mem_of_field? hf
    obtain ⟨hgmem, hgname⟩ := mem_of_field? hg
    exact (h.apart hgmem hfmem (by rwa [hgname, hfname])).frame_read hw
  · split at hr
    · cases hr
    obtain ⟨_, -, heq⟩ := map_eq_ok.1 hr
    cases heq
    rfl

/-- A field that the draft has already does not come again, and any other comes once at most. -/
theorem count_memberNames (h : record.Lawful) {key : String} {f : Field ρ} (hf : record.field? key = some f) :
    ∀ {fuel fuel' : Nat} {first : Bool} {d d' : ρ} {s r : List Char},
      foldMembers record.readMember fuel first d s = .ok (d', r) →
      (memberNames fuel' first s).count key + (f.has d).toNat ≤ 1
  | _, 0, _, d, _, _, _, _ => by
    rw [memberNames, List.count_nil, Nat.zero_add]
    exact Bool.toNat_le _
  | 0, _ + 1, _, _, _, _, _, hr => by cases hr
  | fuel + 1, fuel' + 1, first, d, d', s, r, hr => by
    rcases foldMembers_eq_ok.1 hr with ⟨hn, -⟩ | ⟨t, key', u, e, x, hn, hk, he, hr⟩
    · rw [memberNames, hn]
      dsimp only
      rw [List.count_nil, Nat.zero_add]
      exact Bool.toNat_le _
    · obtain ⟨w, hc, hw⟩ := passes_of_readMember h he
      have hnames : memberNames (fuel' + 1) first s = key' :: memberNames fuel' false x := by
        rw [memberNames, hn]
        dsimp only
        rw [hk]
        dsimp only
        rw [hc, Except.bind, skipValue_eq_ok_iff.2 hw]
      have ih : (memberNames fuel' false x).count key + (f.has e).toNat ≤ 1 := count_memberNames h hf hr
      rw [hnames]
      by_cases hkey : key' = key
      · -- the draft has the field from here on, so it does not come again
        subst hkey
        obtain ⟨hd, he⟩ := has_of_readMember h hf he
        rw [he, Bool.toNat_true] at ih
        rw [List.count_cons_self, hd, Bool.toNat_false]
        omega
      · rw [has_of_readMember_ne h hf hkey he] at ih
        rwa [List.count_cons_of_ne hkey]

/-- **A record is not read from an object that gives one of its fields twice.** -/
theorem Lawful.count_topNames (h : record.Lawful) {s r : List Char} {a : α} (hr : record.form.read s = .ok (a, r))
    {key : String} (hkey : key ∈ record.names) : (topNames s).count key ≤ 1 := by
  rcases read_form.1 hr with ⟨t, d, hs, -⟩ | ⟨t, d, hs, hd, -⟩
  · rw [topNames, hs]
    exact Nat.zero_le 1
  · rw [topNames, hs]
    obtain ⟨f, hf⟩ : ∃ f, record.field? key = some f := by
      obtain ⟨f, hmem, hname⟩ := List.mem_map.1 hkey
      exact Option.isSome_iff_exists.1 (List.find?_isSome.2 ⟨f, hmem, decide_eq_true hname⟩)
    exact Nat.le_of_add_right_le (count_memberNames h hf hd)

end Record

end Json
end SinkReporter
