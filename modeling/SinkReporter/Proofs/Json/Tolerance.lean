import SinkReporter.Proofs.Json.Ending
import SinkReporter.Proofs.Json.Variation
import Mathlib.Data.List.Forall2
/-!
# Proofs.Json.Tolerance — records do not mind the order of their members, nor members they do not know

A record that passes over other names and whose fields may be read in any order is tolerant.  What it reads of an object or
of an array is a matter of the parts, each by itself (`Tolerant.object_read_iff`, `Tolerant.array_read_iff`), and so its form
is blind to changes (`Tolerant.blind`).
-/
namespace SinkReporter
namespace Json

/-! ## Fields -/

/-- **Two fields may be read in either order.** -/
def Field.Swaps {ρ : Type} (f g : Field ρ) : Prop :=
  ∀ {a b c s r s' r'}, f.read a s = .ok (b, r) → g.read b s' = .ok (c, r') →
    ∃ b', g.read a s' = .ok (b', r') ∧ f.read b' s = .ok (c, r)

theorem Field.swaps_of {ρ α β : Type} {form : Form α} {form' : Form β} {name name' : String} {get : ρ → Option α}
    {put : ρ → α → ρ} {get' : ρ → Option β} {put' : ρ → β → ρ} {ends ends' : Bool}
    (hput : ∀ d a b, put' (put d a) b = put (put' d b) a) :
    (Field.of name form get put ends).Swaps (Field.of name' form' get' put' ends') := by
  intro a b c s r s' r' h h'
  obtain ⟨⟨x, _⟩, hx, heq⟩ := map_eq_ok.1 h
  cases heq
  obtain ⟨⟨y, _⟩, hy, heq⟩ := map_eq_ok.1 h'
  cases heq
  exact ⟨_, map_eq_ok.2 ⟨(y, r'), hy, rfl⟩, map_eq_ok.2 ⟨(x, r), hx, by rw [hput]⟩⟩

theorem Field.blind_of {ρ α : Type} {shape : Shape} {form : Form α} (h : Blind shape form.read) {name : String}
    {get : ρ → Option α} {put : ρ → α → ρ} {ends : Bool} (d : ρ) :
    Blind shape ((Field.of name form get put ends).read d) :=
  h.map (put d)

structure Field.Fits {ρ : Type} (f : Field ρ) (entry : String × Shape) : Prop where
  name : f.name = entry.1
  blind : ∀ d, Blind entry.2 (f.read d)

theorem Sound.skipValue_iff {lead core rest r : List Char} (h : Sound core) (hlead : lead.all isSpace) (hr : Ends rest) :
    skipValue (lead ++ (core ++ rest)) = .ok r ↔ r = rest := by
  have hpasses : Passes (lead ++ (core ++ rest)) rest := by
    refine Passes.of_skipSpace ?_
    rw [h.skipSpace_append hlead]
    exact h.passes hr
  rw [skipValue_eq_ok_iff.2 hpasses, Except.ok.injEq]
  exact eq_comm

namespace Record

variable {ρ α : Type} {record : Record ρ α} {shapes : List (String × Shape)}

/-- **A record that minds neither the order of its members nor members that it does not know.** -/
structure Tolerant (shapes : List (String × Shape)) (record : Record ρ α) : Prop extends record.Lawful where
  fits : List.Forall₂ Field.Fits record.fields shapes
  swaps : record.fields.Pairwise fun f g => f.Swaps g ∧ g.Swaps f
  passes : record.exact = false

/-! ## Members of an object -/

theorem names_of_fits {fields : List (Field ρ)} (h : List.Forall₂ Field.Fits fields shapes) :
    fields.map (·.name) = shapes.map (·.1) := by
  induction h with
  | nil => rfl
  | cons hf _ ih => rw [List.map_cons, List.map_cons, hf.name, ih]

theorem exists_blind_of_mem {fields : List (Field ρ)} (h : List.Forall₂ Field.Fits fields shapes) {f : Field ρ}
    (hf : f ∈ fields) : ∃ shape, ∀ d, Blind shape (f.read d) := by
  induction h with
  | nil => cases hf
  | cons hfits _ ih =>
    rcases List.mem_cons.1 hf with rfl | hf
    · exact ⟨_, hfits.blind⟩
    · exact ih hf

theorem Tolerant.byItself (h : record.Tolerant shapes) : ByItself record.readMember := by
  intro key gap lead core rest hgap hlead hcore hr d d' r
  rw [readMember_eq_ok, readMember_eq_ok, expectColon_append hgap, expectColon_cons]
  have hread : ∀ {f}, record.field? key = some f →
      (f.read d (lead ++ (core ++ rest)) = .ok (d', r) ↔ f.read d core = .ok (d', []) ∧ r = rest) := fun hf => by
    obtain ⟨shape, hblind⟩ := exists_blind_of_mem h.fits (mem_of_field? hf).1
    exact (hblind d).spaced hlead hcore hr
  have hskip := hcore.skipValue_iff hlead hr (r := r)
  constructor
  · rintro (⟨f, w, hf, hd, hw, hx⟩ | ⟨hf, hx, rfl, w, hw, hs⟩)
    · cases hw
      obtain ⟨hword, rfl⟩ := (hread hf).1 hx
      exact ⟨.inl ⟨f, core, hf, hd, rfl, hword⟩, rfl⟩
    · cases hw
      exact ⟨.inr ⟨hf, hx, rfl, core, rfl, hcore.skipValue_self⟩, hskip.1 hs⟩
  · rintro ⟨⟨f, w, hf, hd, hw, hx⟩ | ⟨hf, hx, rfl, w, hw, -⟩, rfl⟩
    · cases hw
      exact .inl ⟨f, _, hf, hd, rfl, (hread hf).2 ⟨hx, rfl⟩⟩
    · exact .inr ⟨hf, hx, rfl, _, rfl, hskip.2 rfl⟩

/-- **Members may be read in any order**: a field given twice is refused either way. -/
theorem Tolerant.swap (h : record.Tolerant shapes) {key key' : String} {a b c : ρ} {s r s' r' : List Char}
    (hm : record.readMember key a s = .ok (b, r)) (hn : record.readMember key' b s' = .ok (c, r')) :
    ∃ b', record.readMember key' a s' = .ok (b', r') ∧ record.readMember key b' s = .ok (c, r) := by
  rw [readMember_eq_ok] at hm hn
  -- unless both are fields, one of the two leaves the draft as it is
  rcases hm with ⟨f, w, hf, hfa, hw, hread⟩ | ⟨hf, hx, rfl, hskip⟩
  · rcases hn with ⟨g, w', hg, hgb, hw', hread'⟩ | ⟨hg, hx, rfl, hskip⟩
    · obtain ⟨hfmem, hfname⟩ := mem_of_field? hf
      obtain ⟨hgmem, hgname⟩ := mem_of_field? hg
      by_cases hkey : key = key'
      · -- the second would find the field in the draft
        subst hkey
        cases hf.symm.trans hg
        rw [(h.field _ hfmem).has_read hread] at hgb
        cases hgb
      · have hfg : f.name ≠ g.name := by rwa [hfname, hgname]
        have hga := (h.apart hfmem hgmem hfg).frame_read hread
        obtain ⟨b', hb', hc⟩ := of_pairwise (R := Field.Swaps) h.swaps hfmem hgmem hfg hread hread'
        have hfb' := (h.apart hgmem hfmem hfg.symm).frame_read hb'
        exact ⟨b', readMember_eq_ok.2 (.inl ⟨g, w', hg, hga.symm.trans hgb, hw', hb'⟩),
          readMember_eq_ok.2 (.inl ⟨f, w, hf, hfb'.trans hfa, hw, hc⟩)⟩
    · exact ⟨a, readMember_eq_ok.2 (.inr ⟨hg, hx, rfl, hskip⟩), readMember_eq_ok.2 (.inl ⟨f, w, hf, hfa, hw, hread⟩)⟩
  · exact ⟨c, readMember_eq_ok.2 hn, readMember_eq_ok.2 (.inr ⟨hf, hx, rfl, hskip⟩)⟩

theorem Tolerant.swap_memberStep (h : record.Tolerant shapes) {a b c : ρ} {m n : List Char × List Char}
    (hm : memberStep record.readMember a m = .ok b) (hn : memberStep record.readMember b n = .ok c) :
    ∃ b', memberStep record.readMember a n = .ok b' ∧ memberStep record.readMember b' m = .ok c := by
  obtain ⟨key, hkey, hm⟩ := memberStep_eq_ok.1 hm
  obtain ⟨key', hkey', hn⟩ := memberStep_eq_ok.1 hn
  obtain ⟨b', hb', hc⟩ := h.swap hm hn
  exact ⟨b', memberStep_eq_ok.2 ⟨key', hkey', hb'⟩, memberStep_eq_ok.2 ⟨key, hkey, hc⟩⟩

theorem Tolerant.memberStep_unknown (h : record.Tolerant shapes) {m : Member} {key : String}
    (hkey : readString m.name = .ok (key, [])) (hcore : Sound m.value.core) (hnot : key ∉ shapes.map (·.1)) (d : ρ) :
    memberStep record.readMember d m.bare = .ok d := by
  have hnone : record.field? key = none := List.find?_eq_none.2 fun f hf heq => by
    rw [← names_of_fits h.fits] at hnot
    exact hnot (List.mem_map.2 ⟨f, hf, by simpa using heq⟩)
  exact memberStep_eq_ok.2 ⟨key, hkey,
    readMember_eq_ok.2 (.inr ⟨hnone, h.passes, rfl, _, expectColon_cons _, hcore.skipValue_self⟩)⟩

theorem exists_field?_of_lookup {fields : List (Field ρ)} (h : List.Forall₂ Field.Fits fields shapes) {key : String}
    {shape : Shape} (hl : shapes.lookup key = some shape) :
    ∃ f, fields.find? (·.name = key) = some f ∧ ∀ d, Blind shape (f.read d) := by
  induction h with
  | nil => cases hl
  | @cons f entry fields shapes hf _ ih =>
    rw [List.lookup_cons] at hl
    rw [List.find?_cons]
    by_cases hname : key = entry.1
    · have hbeq : (key == entry.1) = true := beq_iff_eq.2 hname
      have hdec : decide (f.name = key) = true := decide_eq_true (hf.name.trans hname.symm)
      rw [hbeq] at hl
      cases hl
      rw [hdec]
      exact ⟨f, rfl, hf.blind⟩
    · have hbeq : (key == entry.1) = false := beq_false_of_ne hname
      have hdec : decide (f.name = key) = false := decide_eq_false fun heq => hname (heq.symm.trans hf.name)
      rw [hbeq] at hl
      rw [hdec]
      exact ih hl

theorem Tolerant.memberStep_varied (h : record.Tolerant shapes) {m : Member} {core : List Char} {key : String} {shape : Shape}
    (hkey : readString m.name = .ok (key, [])) (hl : shapes.lookup key = some shape) (hv : Varied shape m.value.core core)
    (a b : ρ) :
    memberStep record.readMember a m.bare = .ok b ↔ memberStep record.readMember a (m.withCore core).bare = .ok b := by
  obtain ⟨f, hf, hblind⟩ := exists_field?_of_lookup h.fits hl
  have hread : ∀ w, record.readMember key a (':' :: w) = .ok (b, []) ↔ f.has a = false ∧ f.read a w = .ok (b, []) := by
    intro w
    have hfield : record.field? key = some f := hf
    rw [readMember_eq_ok, expectColon_cons, hfield]
    constructor
    · rintro (⟨g, w', hg, hg', hw, hx⟩ | ⟨hnone, -⟩)
      · cases hg
        cases hw
        exact ⟨hg', hx⟩
      · cases hnone
    · exact fun hx => .inl ⟨f, w, rfl, hx.1, rfl, hx.2⟩
  rw [memberStep_eq_ok, memberStep_eq_ok]
  refine exists_congr fun key' => and_congr_right fun hkey' => ?_
  cases hkey.symm.trans hkey'
  exact (hread _).trans ((and_congr_right fun _ => (hblind a).varied hv).trans (hread _).symm)

/-! ## Items of an array -/

def takeCores (record : Record ρ α) : List (Field ρ) → Nat → ρ → List (List Char) → Except Fault ρ
  | [], _, d, [] => .ok d
  | [], _, _, _ :: _ => .error .malformed
  | f :: rest, index, d, [] => ((record.leftOff (f :: rest) index).mapError misfit).map fun _ => d
  | f :: rest, index, d, core :: cores => (wholly (f.read d core)).bind fun d => record.takeCores rest (index + 1) d cores

theorem readItems_cores : ∀ {fields : List (Field ρ)} {index : Nat} {d d' : ρ} {cores : List (List Char)}
    {s rest r : List Char}, (∀ f ∈ fields, ∃ shape, ∀ d, Blind shape (f.read d)) →
    ItemsOf CoreAt (index = 0) s cores rest →
    (record.readItems fields index d s = .ok (d', r) ↔ record.takeCores fields index d cores = .ok d' ∧ r = rest)
  | [], index, d, d', _, s, rest, r, _, .done hn => by
    rw [readItems, takeCores, map_eq_ok]
    have hclose := closeItems_eq_ok.2 (nextItem_done_iff.1 hn)
    simp [hclose, eq_comm]
  | [], index, d, d', _, s, rest, r, _, .part hn _ _ => by
    rw [readItems, takeCores, map_eq_ok]
    constructor
    · rintro ⟨t, ht, -⟩
      rw [nextItem_done_iff.2 (closeItems_eq_ok.1 ht)] at hn
      cases hn
    · rintro ⟨h, -⟩
      cases h
  | f :: fields, index, d, d', _, s, rest, r, _, .done hn => by
    rw [readItems, hn, takeCores, map_eq_ok, map_eq_ok]
    constructor
    · rintro ⟨u, hu, heq⟩
      cases heq
      exact ⟨⟨u, hu, rfl⟩, rfl⟩
    · rintro ⟨⟨u, hu, heq⟩, rfl⟩
      cases heq
      exact ⟨u, hu, rfl⟩
  | f :: fields, index, d, d', core :: cores, s, rest, r, hl, .part hn hcore hi => by
    obtain ⟨⟨shape, hf⟩, hfields⟩ := List.forall_mem_cons.1 hl
    obtain ⟨rfl, hsound, hends⟩ := hcore
    have hlater : ItemsOf CoreAt (index + 1 = 0) _ cores rest := hi
    rw [readItems, hn, takeCores, bind_eq_ok]
    dsimp only
    constructor
    · intro hread
      split at hread
      · cases hread
      rename_i e u hu
      obtain ⟨hword, rfl⟩ := ((hf d).word hsound hends).1 hu
      obtain ⟨hmore, rfl⟩ := (readItems_cores hfields hlater).1 hread
      exact ⟨⟨e, wholly_eq_ok.2 hword, hmore⟩, rfl⟩
    · rintro ⟨⟨e, he, hmore⟩, rfl⟩
      rw [((hf d).word hsound hends).2 ⟨wholly_eq_ok.1 he, rfl⟩]
      exact (readItems_cores hfields hlater).2 ⟨hmore, rfl⟩

theorem takeCores_varied : ∀ {fields : List (Field ρ)} {shapes : List (String × Shape)} {before after : List (List Char)}
    {core core' : List Char} {name : String} {shape : Shape} {index : Nat} {d d' : ρ},
    List.Forall₂ Field.Fits fields shapes → shapes[before.length]? = some (name, shape) → Varied shape core core' →
    (record.takeCores fields index d (before ++ core :: after) = .ok d' ↔
      record.takeCores fields index d (before ++ core' :: after) = .ok d')
  | _, _, _, _, _, _, _, _, _, _, _, .nil, hs, _ => by cases hs
  | _, _, [], after, core, core', name, shape, index, d, d', .cons hf _, hs, hv => by
    cases hs
    rw [List.nil_append, List.nil_append, takeCores, takeCores, bind_eq_ok, bind_eq_ok]
    refine exists_congr fun e => and_congr_left fun _ => ?_
    rw [wholly_eq_ok, wholly_eq_ok]
    exact (hf.blind d).varied hv
  | _, _, _ :: before, after, core, core', name, shape, index, d, d', .cons hf hrest, hs, hv => by
    rw [List.cons_append, List.cons_append, takeCores, takeCores, bind_eq_ok, bind_eq_ok]
    exact exists_congr fun e => and_congr_right fun _ => takeCores_varied hrest hs hv

/-! ## Whole records -/

/-- **What a record is read of an object**: its members, each by itself. -/
theorem Tolerant.object_read_iff (h : record.Tolerant shapes) {pad : List Char} {members : List Member}
    (hm : SoundMembers pad members) (rest : List Char) (a : α) (r : List Char) :
    record.form.read (objectText pad members ++ rest) = .ok (a, r) ↔
      (∃ d, (members.map Member.bare).foldlM (memberStep record.readMember) record.blank = .ok d ∧
        record.finish d = .ok a) ∧ r = rest := by
  have hs : skipSpace (objectText pad members ++ rest) = '\x7b' :: (membersText pad true members ++ rest) :=
    skipSpace_of_not (by decide) _
  rw [read_form, hs]
  constructor
  · rintro (⟨t, d, ht, -⟩ | ⟨t, d, ht, hd, ha⟩)
    · cases ht
    · cases ht
      obtain ⟨hfold, rfl⟩ := (hm.readMembers_iff h.byItself).1 hd
      exact ⟨⟨d, hfold, ha⟩, rfl⟩
  · rintro ⟨⟨d, hd, ha⟩, rfl⟩
    exact .inr ⟨_, d, rfl, (hm.readMembers_iff h.byItself).2 ⟨hd, rfl⟩, ha⟩

/-- **What a record is read of an array**: its items, each by itself. -/
theorem Tolerant.array_read_iff (h : record.Tolerant shapes) {pad : List Char} {items : List Item}
    (hi : SoundItems pad items) (rest : List Char) (a : α) (r : List Char) :
    record.form.read (arrayText pad items ++ rest) = .ok (a, r) ↔
      (∃ d, record.takeCores record.fields 0 record.blank (items.map Item.core) = .ok d ∧ record.finish d = .ok a) ∧
        r = rest := by
  have hs : skipSpace (arrayText pad items ++ rest) = '[' :: (itemsText pad true items ++ rest) :=
    skipSpace_of_not (by decide) _
  have hread : ∀ d, record.readItems record.fields 0 record.blank (itemsText pad true items ++ rest) = .ok (d, r) ↔
      record.takeCores record.fields 0 record.blank (items.map Item.core) = .ok d ∧ r = rest := fun d =>
    readItems_cores (fun _ => exists_blind_of_mem h.fits) (hi.itemsOf true [] rfl rest)
  rw [read_form, hs]
  constructor
  · rintro (⟨t, d, ht, hd, ha⟩ | ⟨t, d, ht, -⟩)
    · cases ht
      obtain ⟨hcores, rfl⟩ := (hread d).1 hd
      exact ⟨⟨d, hcores, ha⟩, rfl⟩
    · cases ht
  · rintro ⟨⟨d, hd, ha⟩, rfl⟩
    exact .inl ⟨_, d, rfl, (hread d).2 ⟨hd, rfl⟩, ha⟩

/-- **The form of a tolerant record is blind to changes.** -/
theorem Tolerant.blind (h : record.Tolerant shapes) : Blind (.record shapes) record.form.read where
  lead s := by
    unfold form
    dsimp only
    rw [skipSpace_skipSpace]
  word {w rest a r} hw _ := by
    refine word_of_start record.ofContainer hw (fun c t hc hb => ?_) rest a r
    subst hc
    rcases hb with rfl | rfl
    · obtain ⟨pad, items, hi, rfl⟩ := hw.of_bracket
      exact ⟨_, h.array_read_iff hi⟩
    · obtain ⟨pad, members, hm, rfl⟩ := hw.of_brace
      exact ⟨_, h.object_read_iff hm⟩
  varied {w w' a} hv := by
    cases hv with
    | permuted hm hm' hperm =>
      rw [read_word (h.object_read_iff hm), read_word (h.object_read_iff hm')]
      refine exists_congr fun d => and_congr_left fun _ => ?_
      exact ⟨foldlM_perm (memberStep record.readMember) (fun _ _ _ _ _ => h.swap_memberStep) hperm,
        foldlM_perm (memberStep record.readMember) (fun _ _ _ _ _ => h.swap_memberStep) hperm.symm⟩
    | inserted hm hkey hnot =>
      rw [read_word (h.object_read_iff hm.without), read_word (h.object_read_iff hm), List.map_append, List.map_append,
        List.map_cons]
      have hcore := hm.sound _ (List.mem_append_right _ List.mem_cons_self)
      exact exists_congr fun d => and_congr_left fun _ => (foldlM_skip (h.memberStep_unknown hkey hcore hnot)).symm
    | field hm hkey hl hv =>
      rw [read_word (h.object_read_iff hm), read_word (h.object_read_iff (hm.withCore hv.sound.2)), List.map_append,
        List.map_append, List.map_cons, List.map_cons]
      exact exists_congr fun d => and_congr_left fun _ => foldlM_replace (h.memberStep_varied hkey hl hv)
    | @place _ pad before item after name shape core hi hs hv =>
      have hplace : shapes[(before.map Item.core).length]? = some (name, shape) := by rwa [List.length_map]
      rw [read_word (h.array_read_iff hi), read_word (h.array_read_iff (hi.withCore hv.sound.2)), List.map_append,
        List.map_append, List.map_cons, List.map_cons]
      exact exists_congr fun d => and_congr_left fun _ => takeCores_varied h.fits hplace hv

end Record
end Json
end SinkReporter
