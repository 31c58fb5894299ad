import SinkReporter.Proofs.Json.Lookup
import Mathlib.Data.List.Basic
/-!
# Proofs.Json.Named — what a record takes from an object and from an array

An object holds its members under their names, and an array of the right length holds its items under names that are given
in order (`Value.under`).  A record whose last field may not be left off takes the same from both: each of its fields is
taken from what stands under its name (`Record.Regular.take_iff`).
-/
namespace SinkReporter
namespace Json

/-- What a value holds under a name.  The items of an array have the given names, in order. -/
def Value.under (names : List String) : Value → String → Option Value
  | .object members, name => members.lookup name
  | .array items, name => (names.zip items).lookup name
  | _, _ => none

/-- A value with room for the given names: an object, whatever its members, or an array of as many items. -/
def Value.HasRoom (names : List String) : Value → Prop
  | .object _ => True
  | .array items => items.length = names.length
  | _ => False

theorem mem_of_lookup {β : Type} {key : String} {value : β} {members : List (String × β)}
    (h : members.lookup key = some value) : (key, value) ∈ members := by
  obtain ⟨before, after, rfl, -⟩ := List.lookup_eq_some_iff.1 h
  exact List.mem_append_right _ List.mem_cons_self

theorem Distinct.under {v w : Value} (h : Distinct v) {names : List String} {name : String}
    (hw : v.under names name = some w) : Distinct w := by
  cases h with
  | object _ hd => exact hd _ (mem_of_lookup hw)
  | array hd => exact hd _ (List.of_mem_zip (mem_of_lookup hw)).2
  | _ => cases hw

namespace Record

variable {ρ α : Type} {record : Record ρ α}

/-- **A record that is written alike as an object and as an array**: it passes over other names, no two fields have one
name, its blank draft is blank, and its last field may not be left off. -/
structure Regular (record : Record ρ α) : Prop extends record.Lawful where
  passes : record.exact = false
  names : record.names.Nodup
  blank : ∀ f ∈ record.fields, f.has record.blank = false
  last : ∀ f ∈ record.fields.getLast?, f.mayEnd = false

theorem mayEnd_of_leftOff : ∀ {fields : List (Field ρ)} {index : Nat}, record.leftOff fields index = .ok () →
    ∀ f ∈ fields, f.mayEnd = true
  | [], _, _, _, hf => by cases hf
  | g :: fields, index, h, f, hf => by
    rw [leftOff] at h
    split at h
    · rename_i hg
      rcases List.mem_cons.1 hf with rfl | hf
      · exact hg
      · exact mayEnd_of_leftOff h f hf
    · cases h

/-- No item is missing when the last field may not be left off, and none is left over. -/
theorem length_of_takeItems : ∀ {fields : List (Field ρ)} {items : List Value} {index : Nat} {d d' : ρ},
    (∀ f ∈ fields.getLast?, f.mayEnd = false) → record.takeItems fields index d items = .ok (d', []) →
    items.length = fields.length
  | [], [], _, _, _, _, _ => rfl
  | [], _ :: _, _, _, _, _, h => by cases h
  | f :: fields, [], _, _, _, hlast, h => by
    obtain ⟨_, hleft, -⟩ := map_eq_ok.1 h
    have hmem : (f :: fields).getLast (List.cons_ne_nil f fields) ∈ (f :: fields).getLast? :=
      List.getLast_mem_getLast? _
    have hends := mayEnd_of_leftOff hleft _ (List.getLast_mem (List.cons_ne_nil f fields))
    rw [hlast _ hmem] at hends
    cases hends
  | f :: fields, v :: items, _, _, _, hlast, h => by
    obtain ⟨e, -, hrest⟩ := takeItems_cons_eq_ok.1 h
    have hlast' : ∀ g ∈ fields.getLast?, g.mayEnd = false := fun g hg => hlast g (List.mem_getLast?_cons hg)
    rw [List.length_cons, List.length_cons, length_of_takeItems hlast' hrest]

/-- Items go to fields that the draft does not have yet as if they stood under the names of the fields. -/
theorem Lawful.takeItems_iff (h : record.Lawful) {look : String → Option Value} {d' : ρ} :
    ∀ {fields : List (Field ρ)} {items : List Value} {index : Nat} {d : ρ},
      (∀ f ∈ fields, f ∈ record.fields) → (fields.map (·.name)).Nodup → (∀ f ∈ fields, f.has d = false) →
      items.length = fields.length → (∀ m ∈ (fields.map (·.name)).zip items, look m.1 = some m.2) →
      (record.takeItems fields index d items = .ok (d', []) ↔ fields.foldlM (Field.takeFrom look) d = .ok d')
  | [], [], _, d, _, _, _, _, _ => by
    rw [takeItems, List.foldlM_nil]
    simp [pure, Except.pure]
  | [], _ :: _, _, _, _, _, _, hl, _ => by cases hl
  | _ :: _, [], _, _, _, _, _, hl, _ => by cases hl
  | f :: fields, v :: items, index, d, hfields, hn, hfresh, hl, hlook => by
    obtain ⟨hf, hfields⟩ := List.forall_mem_cons.1 hfields
    obtain ⟨hname, hn⟩ := List.nodup_cons.1 hn
    obtain ⟨hfd, hfresh⟩ := List.forall_mem_cons.1 hfresh
    rw [List.map_cons, List.zip_cons_cons] at hlook
    obtain ⟨hv, hlook⟩ := List.forall_mem_cons.1 hlook
    have hfrom : f.takeFrom look d = f.take d v := by
      dsimp only at hv
      rw [Field.takeFrom, hv]
      dsimp only
      rw [hfd, if_neg Bool.false_ne_true]
    rw [takeItems_cons_eq_ok, foldlM_cons_eq_ok, hfrom]
    refine exists_congr fun e => and_congr_right fun he => ?_
    refine h.takeItems_iff hfields hn (fun g hg => ?_) (Nat.succ.inj hl) hlook
    -- what the first field has put into the draft is none of the others' concern
    have hne : f.name ≠ g.name := fun heq => hname (List.mem_map.2 ⟨g, hg, heq.symm⟩)
    rw [(h.apart hf (hfields g hg) hne).frame_take he]
    exact hfresh g hg

theorem under_zip {names : List String} {items : List Value} (hn : names.Nodup) (hl : items.length = names.length) :
    ∀ m ∈ names.zip items, Value.under names (.array items) m.1 = some m.2 := fun m hm => by
  have hfst : ((names.zip items).map (·.1)).Nodup := by
    rw [List.map_fst_zip (Nat.le_of_eq hl.symm)]
    exact hn
  exact (lookup_eq_some_iff hfst).2 hm

/-- **What a record takes from a value**: there has to be room for its fields, and each of them is taken from what stands
under its name. -/
theorem Regular.take_iff (h : record.Regular) {v : Value} (hd : Distinct v) {a : α} :
    record.form.take v = .ok a ↔
      v.HasRoom record.names ∧
        ∃ d, record.fields.foldlM (Field.takeFrom (v.under record.names)) record.blank = .ok d ∧ record.finish d = .ok a := by
  cases hd with
  | object hn _ => exact (h.take_object_iff h.passes h.names hn).trans (and_iff_right trivial).symm
  | @array items _ =>
    have hnames : record.names.length = record.fields.length := List.length_map _
    have hitems : ∀ {d : ρ}, items.length = record.fields.length →
        (record.takeItems record.fields 0 record.blank items = .ok (d, []) ↔
          record.fields.foldlM (Field.takeFrom (Value.under record.names (.array items))) record.blank = .ok d) :=
      fun hl => h.takeItems_iff (fun _ hf => hf) h.names h.blank hl (under_zip h.names (hl.trans hnames.symm))
    rw [take_array]
    constructor
    · rintro ⟨d, htaken, hfinish⟩
      have hl := length_of_takeItems h.last htaken
      exact ⟨hl.trans hnames.symm, d, (hitems hl).1 htaken, hfinish⟩
    · rintro ⟨hroom, d, htaken, hfinish⟩
      exact ⟨d, (hitems (hroom.trans hnames)).2 htaken, hfinish⟩
  | _ => exact ⟨(fun h => by cases h), (fun h => h.1.elim)⟩

end Record

/-! ## Field by field -/

/-- **What a form takes from what stands under a name**: nothing if nothing does. -/
def Form.Finds {α : Type} (form : Form α) (found : Option Value) (x : Option α) : Prop :=
  match found with
  | none => x = none
  | some v => ∃ a, form.take v = .ok a ∧ x = some a

/-- What a form takes from what stands under a name, a field that may be missing having a value of its own. -/
def Form.FindsOr {α : Type} (form : Form α) (missing : α) (found : Option Value) (a : α) : Prop :=
  (found = none ∧ a = missing) ∨ ∃ v, found = some v ∧ form.take v = .ok a

section

variable {ρ α : Type} {name : String} {form : Form α} {get : ρ → Option α} {put : ρ → α → ρ} {ends : Bool}
  {look : String → Option Value} {d : ρ} {fields : List (Field ρ)} {P : ρ → Prop}

/-- The first of the fields is settled by itself; `fill` is the draft with this field, whether it was found or not. -/
theorem exists_takeFrom_cons (fill : Option α → ρ) (hd : get d = none) (hnone : fill none = d)
    (hsome : ∀ a, fill (some a) = put d a) :
    (∃ e, (Field.of name form get put ends :: fields).foldlM (Field.takeFrom look) d = .ok e ∧ P e) ↔
      ∃ x, form.Finds (look name) x ∧ ∃ e, fields.foldlM (Field.takeFrom look) (fill x) = .ok e ∧ P e := by
  constructor
  · rintro ⟨e, he, hP⟩
    obtain ⟨d', hd', he⟩ := foldlM_cons_eq_ok.1 he
    rcases (takeFrom_eq_ok hd).1 hd' with ⟨hl, rfl⟩ | ⟨v, a, hl, ha, rfl⟩
    · exact ⟨none, by rw [hl]; rfl, e, by rw [hnone]; exact he, hP⟩
    · exact ⟨some a, by rw [hl]; exact ⟨a, ha, rfl⟩, e, by rw [hsome]; exact he, hP⟩
  · rintro ⟨x, hx, e, he, hP⟩
    refine ⟨e, foldlM_cons_eq_ok.2 ⟨fill x, (takeFrom_eq_ok hd).2 ?_, he⟩, hP⟩
    cases hl : look name with
    | none =>
      rw [hl] at hx
      cases hx
      exact .inl ⟨rfl, hnone.symm⟩
    | some v =>
      rw [hl] at hx
      obtain ⟨a, ha, rfl⟩ := hx
      exact .inr ⟨v, a, rfl, ha, (hsome a).symm⟩

theorem exists_takeFrom_nil : (∃ e, ([] : List (Field ρ)).foldlM (Field.takeFrom look) d = .ok e ∧ P e) ↔ P d := by
  constructor
  · rintro ⟨e, he, hP⟩
    cases he
    exact hP
  · exact fun hP => ⟨d, rfl, hP⟩

theorem Form.finds_some {found : Option Value} {a : α} :
    form.Finds found (some a) ↔ ∃ v, found = some v ∧ form.take v = .ok a := by
  cases found with
  | none => simp [Form.Finds]
  | some v => simp [Form.Finds]

theorem Form.finds_getD {found : Option Value} {a missing : α} :
    (∃ x, form.Finds found x ∧ x.getD missing = a) ↔ form.FindsOr missing found a := by
  cases found with
  | none => simp [Form.Finds, Form.FindsOr, eq_comm]
  | some v => simp [Form.Finds, Form.FindsOr]

end

end Json
end SinkReporter
