import SinkReporter.Proofs.Json.Fields
/-!
# Proofs.Json.Lookup — what a record takes from members whose names differ

When no name comes twice, a record takes its fields one after the other, each from the member of its name
(`Record.Lawful.take_object_iff`), and there are no other members if the record allows none
(`Record.Lawful.take_exact_iff`).  The order in which the members are written does not count.
-/
namespace SinkReporter
namespace Json

theorem lookup_eq_some_iff {β : Type} {key : String} {value : β} {members : List (String × β)}
    (hn : (members.map (·.1)).Nodup) : members.lookup key = some value ↔ (key, value) ∈ members := by
  induction members with
  | nil => exact ⟨(fun h => by cases h), (fun h => by cases h)⟩
  | cons m members ih =>
    obtain ⟨k, v⟩ := m
    obtain ⟨hk, hrest⟩ := List.nodup_cons.1 hn
    by_cases heq : key = k
    · subst heq
      have hnot : (key, value) ∉ members := fun hm => hk (List.mem_map.2 ⟨(key, value), hm, rfl⟩)
      rw [List.lookup_cons_self, List.mem_cons, or_iff_left hnot]
      constructor
      · intro h
        rw [Option.some.inj h]
      · intro h
        rw [(Prod.mk.inj h).2]
    · have hne : (key, value) ≠ (k, v) := fun h => heq (Prod.mk.inj h).1
      have hbeq : (key == k) = false := beq_false_of_ne heq
      rw [List.lookup_cons, hbeq, List.mem_cons, or_iff_right hne]
      exact ih hrest

def Field.takeFrom {ρ : Type} (look : String → Option Value) (d : ρ) (f : Field ρ) : Except Misfit ρ :=
  match look f.name with
  | some v => if f.has d then .error (.duplicateField f.name) else f.take d v
  | none => .ok d

section

variable {ρ α : Type} {name : String} {form : Form α} {get : ρ → Option α} {put : ρ → α → ρ} {ends : Bool}
  {look : String → Option Value} {d d' : ρ}

theorem takeFrom_eq_ok (hd : get d = none) :
    (Field.of name form get put ends).takeFrom look d = .ok d' ↔
      (look name = none ∧ d = d') ∨ ∃ v a, look name = some v ∧ form.take v = .ok a ∧ put d a = d' := by
  have hname : (Field.of name form get put ends).name = name := rfl
  have hfresh : (Field.of name form get put ends).has d = false := congrArg Option.isSome hd
  rw [Field.takeFrom, hname]
  cases look name with
  | none => simp
  | some v =>
    dsimp only
    rw [hfresh, if_neg (Bool.false_ne_true)]
    refine map_eq_ok.trans ?_
    simp

end

theorem takeItems_cons_eq_ok {ρ α : Type} {record : Record ρ α} {f : Field ρ} {fields : List (Field ρ)}
    {index : Nat} {d : ρ} {v : Value} {items : List Value} {taken : ρ × List Value} :
    record.takeItems (f :: fields) index d (v :: items) = .ok taken ↔
      ∃ e, f.take d v = .ok e ∧ record.takeItems fields (index + 1) e items = .ok taken := by
  rw [Record.takeItems]
  cases f.take d v <;> simp

namespace Record

variable {ρ α : Type} {record : Record ρ α}

theorem field?_of_mem {fields : List (Field ρ)} (hn : (fields.map (·.name)).Nodup) {f : Field ρ} (hf : f ∈ fields) :
    fields.find? (·.name = f.name) = some f := by
  induction fields with
  | nil => cases hf
  | cons g fields ih =>
    obtain ⟨hg, hrest⟩ := List.nodup_cons.1 hn
    rcases List.mem_cons.1 hf with rfl | hf
    · rw [List.find?_cons_of_pos (by simp)]
    · have hne : g.name ≠ f.name := fun h => hg (List.mem_map.2 ⟨f, hf, h.symm⟩)
      rw [List.find?_cons_of_neg (by simpa using hne)]
      exact ih hrest hf

theorem takeMember_other {m : String × Value} (hx : record.exact = false) (hm : m.1 ∉ record.names) (d : ρ) :
    record.takeMember d m = .ok d := by
  refine takeMember_eq_ok.2 (.inr ⟨List.find?_eq_none.2 fun f hf h => ?_, hx, rfl⟩)
  have hname : f.name = m.1 := by simpa using h
  exact hm (List.mem_map.2 ⟨f, hf, hname⟩)

def Allows (record : Record ρ α) (members : List (String × Value)) : Prop :=
  record.exact = true → ∀ m ∈ members, m.1 ∈ record.names

theorem foldlM_other {members : List (String × Value)} (hx : record.Allows members)
    (hm : ∀ m ∈ members, m.1 ∉ record.names) (d : ρ) : members.foldlM record.takeMember d = .ok d := by
  induction members with
  | nil => rfl
  | cons m members ih =>
    obtain ⟨hmem, hm⟩ := List.forall_mem_cons.1 hm
    have hexact : record.exact = false := Bool.eq_false_iff.2 fun h => hmem (hx h m List.mem_cons_self)
    have hx : record.Allows members := fun h n hn => hx h n (List.mem_cons_of_mem m hn)
    exact foldlM_cons_eq_ok.2 ⟨d, takeMember_other hexact hmem d, ih hx hm⟩

theorem takeMember_field (hnames : record.names.Nodup) {f : Field ρ} (hf : f ∈ record.fields) {d : ρ} {v : Value}
    {look : String → Option Value} (hl : look f.name = some v) :
    record.takeMember d (f.name, v) = f.takeFrom look d := by
  have hfind : record.field? f.name = some f := field?_of_mem hnames hf
  rw [takeMember, hfind, Field.takeFrom, hl]

/-- **Members whose names differ give the fields their values in the order of the fields.**  By induction on the fields:
the member of the first of them comes to the front. -/
theorem Lawful.foldlM_iff (h : record.Lawful) (hnames : record.names.Nodup) {look : String → Option Value} {d' : ρ} :
    ∀ {fields : List (Field ρ)} {members : List (String × Value)} {d : ρ}, record.Allows members →
      (∀ f ∈ fields, f ∈ record.fields) → (fields.map (·.name)).Nodup →
      (∀ f ∈ fields, ∀ v, look f.name = some v ↔ (f.name, v) ∈ members) →
      (∀ m ∈ members, m.1 ∈ record.names → m.1 ∈ fields.map (·.name)) → (members.map (·.1)).Nodup →
      (members.foldlM record.takeMember d = .ok d' ↔ fields.foldlM (Field.takeFrom look) d = .ok d')
  | [], members, d, hx, _, _, _, hm, _ => by
    rw [foldlM_other hx (fun m hmem hname => by cases hm m hmem hname)]
    exact Iff.rfl
  | f :: fields, members, d, hx, hfields, hn, hlook, hm, hd => by
    obtain ⟨hf, hfields⟩ := List.forall_mem_cons.1 hfields
    obtain ⟨hfn, hn⟩ := List.nodup_cons.1 hn
    obtain ⟨hlf, hlook⟩ := List.forall_mem_cons.1 hlook
    have hne : ∀ g ∈ fields, g.name ≠ f.name := fun g hg heq => hfn (List.mem_map.2 ⟨g, hg, heq⟩)
    cases hl : look f.name with
    | none =>
      have hnone : ∀ m ∈ members, m.1 ≠ f.name := fun m hmem heq => by
        have hsome : look f.name = some m.2 := (hlf m.2).2 (heq ▸ hmem)
        rw [hl] at hsome
        cases hsome
      have hm' : ∀ m ∈ members, m.1 ∈ record.names → m.1 ∈ fields.map (·.name) := fun m hmem hname =>
        (List.mem_cons.1 (hm m hmem hname)).resolve_left (hnone m hmem)
      have hfrom : f.takeFrom look d = .ok d := by rw [Field.takeFrom, hl]
      rw [h.foldlM_iff hnames hx hfields hn hlook hm' hd, List.foldlM_cons, hfrom]
      exact Iff.rfl
    | some v =>
      obtain ⟨before, after, rfl⟩ := List.append_of_mem ((hlf v).1 hl)
      have hperm : (before ++ (f.name, v) :: after).Perm ((f.name, v) :: (before ++ after)) := List.perm_middle
      obtain ⟨hfresh, hd⟩ := List.nodup_cons.1 ((hperm.map _).nodup_iff.1 hd)
      have hlook' : ∀ g ∈ fields, ∀ w, look g.name = some w ↔ (g.name, w) ∈ before ++ after := fun g hg w => by
        have hother : (g.name, w) ≠ (f.name, v) := fun heq => hne g hg (Prod.mk.inj heq).1
        rw [hlook g hg w, hperm.mem_iff, List.mem_cons, or_iff_right hother]
      have hm' : ∀ m ∈ before ++ after, m.1 ∈ record.names → m.1 ∈ fields.map (·.name) := fun m hmem hname => by
        have hother : m.1 ≠ f.name := fun heq => hfresh (List.mem_map.2 ⟨m, hmem, heq⟩)
        exact (List.mem_cons.1 (hm m (hperm.mem_iff.2 (List.mem_cons_of_mem _ hmem)) hname)).resolve_left hother
      have hfront : (before ++ (f.name, v) :: after).foldlM record.takeMember d = .ok d' ↔
          ((f.name, v) :: (before ++ after)).foldlM record.takeMember d = .ok d' :=
        ⟨h.exchange.perm hperm, h.exchange.perm hperm.symm⟩
      have hx' : record.Allows (before ++ after) := fun hexact m hmem =>
        hx hexact m (hperm.mem_iff.2 (List.mem_cons_of_mem _ hmem))
      rw [hfront, foldlM_cons_eq_ok, foldlM_cons_eq_ok, takeMember_field hnames hf hl]
      exact exists_congr fun e => and_congr_right fun _ => h.foldlM_iff hnames hx' hfields hn hlook' hm' hd

theorem Lawful.foldlM_lookup (h : record.Lawful) (hnames : record.names.Nodup) {members : List (String × Value)}
    (hx : record.Allows members) (hn : (members.map (·.1)).Nodup) {d d' : ρ} :
    members.foldlM record.takeMember d = .ok d' ↔
      record.fields.foldlM (Field.takeFrom (List.lookup · members)) d = .ok d' :=
  h.foldlM_iff hnames hx (fun _ hf => hf) hnames (fun _ _ _ => lookup_eq_some_iff hn) (fun _ _ hm => hm) hn

/-- **What a record takes from an object whose members have different names.** -/
theorem Lawful.take_object_iff (h : record.Lawful) (hx : record.exact = false) (hnames : record.names.Nodup)
    {members : List (String × Value)} (hn : (members.map (·.1)).Nodup) {a : α} :
    record.form.take (.object members) = .ok a ↔
      ∃ d, record.fields.foldlM (Field.takeFrom (List.lookup · members)) record.blank = .ok d ∧ record.finish d = .ok a := by
  have hallows : record.Allows members := fun hexact => by
    rw [hx] at hexact
    cases hexact
  rw [take_object]
  exact exists_congr fun d => and_congr_left fun _ => h.foldlM_lookup hnames hallows hn

/-! ## Records that allow no other names -/

theorem names_of_foldlM (hx : record.exact = true) {members : List (String × Value)} {d d' : ρ}
    (hm : members.foldlM record.takeMember d = .ok d') : ∀ m ∈ members, m.1 ∈ record.names := by
  induction members generalizing d with
  | nil => exact List.forall_mem_nil _
  | cons m members ih =>
    obtain ⟨e, he, hrest⟩ := foldlM_cons_eq_ok.1 hm
    refine List.forall_mem_cons.2 ⟨?_, ih hrest⟩
    rcases takeMember_eq_ok.1 he with ⟨f, hf, -⟩ | ⟨-, hpasses, -⟩
    · obtain ⟨hmem, hname⟩ := mem_of_field? hf
      exact List.mem_map.2 ⟨f, hmem, hname⟩
    · rw [hx] at hpasses
      cases hpasses

/-- **What such a record takes from an object whose members have different names**: there is no member but its fields. -/
theorem Lawful.take_exact_iff (h : record.Lawful) (hx : record.exact = true) (hnames : record.names.Nodup)
    {members : List (String × Value)} (hn : (members.map (·.1)).Nodup) {a : α} :
    record.form.take (.object members) = .ok a ↔ (∀ m ∈ members, m.1 ∈ record.names) ∧
      ∃ d, record.fields.foldlM (Field.takeFrom (List.lookup · members)) record.blank = .ok d ∧ record.finish d = .ok a := by
  rw [take_object]
  constructor
  · rintro ⟨d, hd, ha⟩
    have hm := names_of_foldlM hx hd
    exact ⟨hm, d, (h.foldlM_lookup hnames (fun _ => hm) hn).1 hd, ha⟩
  · rintro ⟨hm, d, hd, ha⟩
    exact ⟨d, (h.foldlM_lookup hnames (fun _ => hm) hn).2 hd, ha⟩

end Record
end Json
end SinkReporter
