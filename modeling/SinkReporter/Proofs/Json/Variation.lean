import SinkReporter.Proofs.Json.Agreement
import SinkReporter.Proofs.Json.Layout
import Mathlib.Logic.Relation
/-!
# Proofs.Json.Variation — changes of a text that do not count

A text may give the members of a record in another order, and members besides that the record does not know.  `Varied` is
one such change, anywhere inside a value.  A reader is blind to these changes when it answers the same before and after
(`Blind`), and what it reads of a value has nothing to do with what stands around it.  Each way of building a form out of
others keeps this.
-/
namespace SinkReporter
namespace Json

/-! ## Changes -/

/-- Where in the data of a form records stand, each with the names of its fields and what these hold. -/
inductive Shape where
  | plain
  | list (item : Shape)
  | map (entry : Shape)
  | record (fields : List (String × Shape))

/-- **One change to a value as it is written**: the members of a record in another order and with other white space, a member
of another name, or a change inside one of the parts. -/
inductive Varied : Shape → List Char → List Char → Prop where
  | permuted {fields pad pad' members members'} : SoundMembers pad members → SoundMembers pad' members' →
      (members.map Member.bare).Perm (members'.map Member.bare) →
      Varied (.record fields) (objectText pad members) (objectText pad' members')
  | inserted {fields pad before member after key} : SoundMembers pad (before ++ member :: after) →
      readString member.name = .ok (key, []) → key ∉ fields.map (·.1) →
      Varied (.record fields) (objectText pad (before ++ after)) (objectText pad (before ++ member :: after))
  | field {fields pad before member after name shape core} : SoundMembers pad (before ++ member :: after) →
      readString member.name = .ok (name, []) → fields.lookup name = some shape → Varied shape member.value.core core →
      Varied (.record fields) (objectText pad (before ++ member :: after))
        (objectText pad (before ++ member.withCore core :: after))
  | place {fields pad before item after name shape core} : SoundItems pad (before ++ item :: after) →
      fields[before.length]? = some (name, shape) → Varied shape item.core core →
      Varied (.record fields) (arrayText pad (before ++ item :: after)) (arrayText pad (before ++ item.withCore core :: after))
  | item {shape pad before item after core} : SoundItems pad (before ++ item :: after) → Varied shape item.core core →
      Varied (.list shape) (arrayText pad (before ++ item :: after)) (arrayText pad (before ++ item.withCore core :: after))
  | entry {shape pad before member after core} : SoundMembers pad (before ++ member :: after) →
      Varied shape member.value.core core →
      Varied (.map shape) (objectText pad (before ++ member :: after))
        (objectText pad (before ++ member.withCore core :: after))

theorem SoundItems.withCore {pad core : List Char} {before after : List Item} {item : Item}
    (h : SoundItems pad (before ++ item :: after)) (hcore : Sound core) :
    SoundItems pad (before ++ item.withCore core :: after) := by
  obtain ⟨hpad, hspaced, hsound⟩ := h
  rw [List.forall_mem_append, List.forall_mem_cons] at hspaced hsound
  refine ⟨hpad, List.forall_mem_append.2 ⟨hspaced.1, List.forall_mem_cons.2 ⟨?_, hspaced.2.2⟩⟩,
    List.forall_mem_append.2 ⟨hsound.1, List.forall_mem_cons.2 ⟨hcore, hsound.2.2⟩⟩⟩
  exact ⟨hspaced.2.1.lead, hspaced.2.1.tail⟩

theorem SoundMembers.withCore {pad core : List Char} {before after : List Member} {member : Member}
    (h : SoundMembers pad (before ++ member :: after)) (hcore : Sound core) :
    SoundMembers pad (before ++ member.withCore core :: after) := by
  obtain ⟨hpad, hspaced, hsound⟩ := h
  rw [List.forall_mem_append, List.forall_mem_cons] at hspaced hsound
  refine ⟨hpad, List.forall_mem_append.2 ⟨hspaced.1, List.forall_mem_cons.2 ⟨?_, hspaced.2.2⟩⟩,
    List.forall_mem_append.2 ⟨hsound.1, List.forall_mem_cons.2 ⟨hcore, hsound.2.2⟩⟩⟩
  have hm := hspaced.2.1
  exact ⟨hm.lead, hm.name, hm.gap, hm.value.lead, hm.value.tail⟩

theorem SoundMembers.without {pad : List Char} {before after : List Member} {member : Member}
    (h : SoundMembers pad (before ++ member :: after)) : SoundMembers pad (before ++ after) := by
  have hsub : before ++ after ⊆ before ++ member :: after := fun m hm => by
    rcases List.mem_append.1 hm with hm | hm
    · exact List.mem_append_left _ hm
    · exact List.mem_append_right _ (List.mem_cons_of_mem _ hm)
  exact ⟨h.pad, fun m hm => h.spaced m (hsub hm), fun m hm => h.sound m (hsub hm)⟩

theorem Varied.sound {shape : Shape} {w w' : List Char} (h : Varied shape w w') : Sound w ∧ Sound w' := by
  induction h with
  | permuted hm hm' => exact ⟨hm.text, hm'.text⟩
  | inserted hm => exact ⟨hm.without.text, hm.text⟩
  | field hm _ _ _ ih | entry hm _ ih => exact ⟨hm.text, (hm.withCore ih.2).text⟩
  | place hi _ _ ih | item hi _ ih => exact ⟨hi.text, (hi.withCore ih.2).text⟩

theorem Varied.head {shape : Shape} {w w' : List Char} (h : Varied shape w w') :
    ∃ c t t', w = c :: t ∧ w' = c :: t' ∧ (c = '[' ∨ c = '\x7b') := by
  cases h with
  | permuted | inserted | field | entry => exact ⟨'\x7b', _, _, rfl, rfl, .inr rfl⟩
  | place | item => exact ⟨'[', _, _, rfl, rfl, .inl rfl⟩

/-! ## Readers that are blind to them -/

/-- **A reader is blind to changes**: it passes over white space, what it reads of a value does not depend on what follows,
and it reads the same when the value is changed. -/
structure Blind {α : Type} (shape : Shape) (read : List Char → Reading α) : Prop where
  lead : ∀ s, read (skipSpace s) = read s
  word : ∀ {w rest a r}, Sound w → Ends rest → (read (w ++ rest) = .ok (a, r) ↔ read w = .ok (a, []) ∧ r = rest)
  varied : ∀ {w w' a}, Varied shape w w' → (read w = .ok (a, []) ↔ read w' = .ok (a, []))

section

variable {α β : Type} {shape : Shape} {read : List Char → Reading α}

theorem Blind.spaced (h : Blind shape read) {lead w rest r : List Char} {a : α} (hlead : lead.all isSpace)
    (hw : Sound w) (hr : Ends rest) : read (lead ++ (w ++ rest)) = .ok (a, r) ↔ read w = .ok (a, []) ∧ r = rest := by
  rw [← h.lead, hw.skipSpace_append hlead]
  exact h.word hw hr

theorem Blind.map (h : Blind shape read) (f : α → β) :
    Blind shape fun s => (read s).map fun (a, r) => (f a, r) where
  lead s := by rw [h.lead]
  word {w rest b r} hw hr := by
    rw [map_eq_ok, map_eq_ok]
    constructor
    · rintro ⟨⟨a, _⟩, ha, heq⟩
      cases heq
      obtain ⟨hword, rfl⟩ := (h.word hw hr).1 ha
      exact ⟨⟨(a, []), hword, rfl⟩, rfl⟩
    · rintro ⟨⟨⟨a, _⟩, ha, heq⟩, rfl⟩
      cases heq
      exact ⟨(a, r), (h.word hw hr).2 ⟨ha, rfl⟩, rfl⟩
  varied {w w' b} hv := by
    rw [map_eq_ok, map_eq_ok]
    constructor
    · rintro ⟨⟨a, _⟩, ha, heq⟩
      cases heq
      exact ⟨(a, []), (h.varied hv).1 ha, rfl⟩
    · rintro ⟨⟨a, _⟩, ha, heq⟩
      cases heq
      exact ⟨(a, []), (h.varied hv).2 ha, rfl⟩

end

/-! ## Leaves -/

theorem blind_text : Blind .plain Form.text.read where
  lead s := by
    unfold Form.text
    dsimp only
    rw [skipSpace_skipSpace]
  word {w rest a r} hw hr := by
    rw [text_read, text_read, hw.skipSpace_word, hw.skipSpace_self]
    constructor
    · rintro ⟨t, hs, hx⟩
      obtain ⟨u, rfl, rfl⟩ := hw.cons_of_append ((hw.skipSpace_word rest).trans hs)
      obtain ⟨hword, rfl⟩ := hw.of_quote.readString_iff.1 hx
      exact ⟨⟨u, rfl, hword⟩, rfl⟩
    · rintro ⟨⟨u, rfl, hx⟩, rfl⟩
      exact ⟨u ++ r, rfl, hw.of_quote.readString_iff.2 ⟨hx, rfl⟩⟩
  varied h := by cases h

theorem blind_unit : Blind .plain Form.unit.read where
  lead s := by
    unfold Form.unit
    dsimp only
    rw [skipSpace_skipSpace]
  word {w rest a r} hw hr := by
    rw [unit_read, unit_read, hw.skipSpace_word, hw.skipSpace_self]
    constructor
    · rintro ⟨t, hs, he⟩
      obtain ⟨u, rfl, rfl⟩ := hw.cons_of_append ((hw.skipSpace_word rest).trans hs)
      obtain rfl := hw.of_n
      cases (expect_append ['u', 'l', 'l'] rest).symm.trans he
      exact ⟨⟨_, rfl, rfl⟩, rfl⟩
    · rintro ⟨⟨u, rfl, -⟩, rfl⟩
      obtain rfl := hw.of_n
      exact ⟨_, rfl, expect_append ['u', 'l', 'l'] r⟩
  varied h := by cases h

theorem blind_boolean : Blind .plain Form.boolean.read where
  lead s := by
    unfold Form.boolean
    dsimp only
    rw [skipSpace_skipSpace]
  word {w rest a r} hw hr := by
    rw [boolean_read, boolean_read, hw.skipSpace_word, hw.skipSpace_self]
    constructor
    · rintro (⟨t, hs, he, ha⟩ | ⟨t, hs, he, ha⟩)
      · obtain ⟨u, rfl, rfl⟩ := hw.cons_of_append ((hw.skipSpace_word rest).trans hs)
        obtain rfl := hw.of_t
        cases (expect_append ['r', 'u', 'e'] rest).symm.trans he
        exact ⟨.inl ⟨_, rfl, rfl, ha⟩, rfl⟩
      · obtain ⟨u, rfl, rfl⟩ := hw.cons_of_append ((hw.skipSpace_word rest).trans hs)
        obtain rfl := hw.of_f
        cases (expect_append ['a', 'l', 's', 'e'] rest).symm.trans he
        exact ⟨.inr ⟨_, rfl, rfl, ha⟩, rfl⟩
    · rintro ⟨⟨u, rfl, -, ha⟩ | ⟨u, rfl, -, ha⟩, rfl⟩
      · obtain rfl := hw.of_t
        exact .inl ⟨_, rfl, expect_append ['r', 'u', 'e'] r, ha⟩
      · obtain rfl := hw.of_f
        exact .inr ⟨_, rfl, expect_append ['a', 'l', 's', 'e'] r, ha⟩
  varied h := by cases h

/-! ## Parts of containers -/

def wholly {α : Type} (reading : Reading α) : Except Fault α :=
  match reading with
  | .error e => .error e
  | .ok (a, []) => .ok a
  | .ok (_, _ :: _) => .error .malformed

theorem wholly_eq_ok {α : Type} {reading : Reading α} {a : α} : wholly reading = .ok a ↔ reading = .ok (a, []) := by
  unfold wholly
  split <;> simp

section

variable {σ : Type} {pad rest r : List Char} {a b : σ}

/-- **A loop over the items that are written** reads each of them by itself. -/
theorem SoundItems.readItems_iff {items : List Item} (h : SoundItems pad items) {shape : Shape}
    {step : σ → List Char → Reading σ} (hstep : ∀ a, Blind shape (step a)) :
    readItems step a (itemsText pad true items ++ rest) = .ok (b, r) ↔
      (items.map Item.core).foldlM (fun a core => wholly (step a core)) a = .ok b ∧ r = rest := by
  have hparts := h.itemsOf true [] rfl rest
  refine foldItems_parts (P := CoreAt) (fun {t core u} ht a b r => ?_) hparts ?_
  · obtain ⟨rfl, hcore, hends⟩ := ht
    rw [wholly_eq_ok]
    exact (hstep a).word hcore hends
  · have := hparts.length_lt fun {t core u} ht => by
      obtain ⟨rfl, hcore, -⟩ := ht
      obtain ⟨c, v, rfl, -⟩ := hcore.head
      rw [List.cons_append, List.length_cons, List.length_append]
      omega
    simp only [List.nil_append] at this
    omega

def memberStep (step : String → σ → List Char → Reading σ) (a : σ) (m : List Char × List Char) : Except Fault σ :=
  (wholly (readString m.1)).bind fun key => wholly (step key a (':' :: m.2))

theorem memberStep_eq_ok {step : String → σ → List Char → Reading σ} {m : List Char × List Char} :
    memberStep step a m = .ok b ↔ ∃ key, readString m.1 = .ok (key, []) ∧ step key a (':' :: m.2) = .ok (b, []) := by
  unfold memberStep
  rw [bind_eq_ok]
  simp only [wholly_eq_ok]

/-- **A step takes a member by itself**: the white space in it and what follows do not count. -/
def ByItself (step : String → σ → List Char → Reading σ) : Prop :=
  ∀ {key gap lead core rest}, gap.all isSpace → lead.all isSpace → Sound core → Ends rest → ∀ {a b r},
    step key a (gap ++ ':' :: (lead ++ (core ++ rest))) = .ok (b, r) ↔ step key a (':' :: core) = .ok (b, []) ∧ r = rest

/-- **A loop over the members that are written** takes each of them by itself. -/
theorem SoundMembers.readMembers_iff {members : List Member} (h : SoundMembers pad members)
    {step : String → σ → List Char → Reading σ} (hstep : ByItself step) :
    readMembers step a (membersText pad true members ++ rest) = .ok (b, r) ↔
      (members.map Member.bare).foldlM (memberStep step) a = .ok b ∧ r = rest := by
  have hparts := h.membersOf true [] rfl rest
  refine foldMembers_parts (P := MemberAt) (fun {t m u} ht a b r => ?_) hparts ?_
  · obtain ⟨gap, lead, rfl, hgap, hlead, hname, hcore, hends⟩ := ht
    rw [memberStep_eq_ok]
    constructor
    · rintro ⟨key, w, hk, hw⟩
      obtain ⟨hkey, rfl⟩ := hname.readString_iff.1 hk
      obtain ⟨hb, rfl⟩ := (hstep hgap hlead hcore hends).1 hw
      exact ⟨⟨key, hkey, hb⟩, rfl⟩
    · rintro ⟨⟨key, hk, hw⟩, rfl⟩
      exact ⟨key, _, hname.readString_iff.2 ⟨hk, rfl⟩, (hstep hgap hlead hcore hends).2 ⟨hw, rfl⟩⟩
  · have := hparts.length_lt fun {t m u} ht => by
      obtain ⟨gap, lead, rfl, -⟩ := ht
      simp only [List.length_append, List.length_cons]
      omega
    simp only [List.nil_append] at this
    omega

end

/-! ## Forms built out of others -/

section

variable {α β : Type} {shape : Shape} {form : Form α}

theorem Blind.optional (h : Blind shape form.read) : Blind shape form.optional.read where
  lead s := by
    unfold Form.optional
    dsimp only
    rw [skipSpace_skipSpace]
  word {w rest x r} hw hr := by
    rw [optional_read, optional_read, hw.skipSpace_word, hw.skipSpace_self]
    constructor
    · rintro (⟨t, hs, he, hx⟩ | ⟨hne, a, ha, hx⟩)
      · obtain ⟨u, rfl, rfl⟩ := hw.cons_of_append ((hw.skipSpace_word rest).trans hs)
        obtain rfl := hw.of_n
        cases (expect_append ['u', 'l', 'l'] rest).symm.trans he
        exact ⟨.inl ⟨_, rfl, rfl, hx⟩, rfl⟩
      · obtain ⟨hword, rfl⟩ := (h.word hw hr).1 ha
        refine ⟨.inr ⟨?_, a, hword, hx⟩, rfl⟩
        rintro t rfl
        exact hne (t ++ r) rfl
    · rintro ⟨⟨u, rfl, -, hx⟩ | ⟨hne, a, ha, hx⟩, rfl⟩
      · obtain rfl := hw.of_n
        exact .inl ⟨_, rfl, expect_append ['u', 'l', 'l'] r, hx⟩
      · refine .inr ⟨fun t ht => ?_, a, (h.word hw hr).2 ⟨ha, rfl⟩, hx⟩
        obtain ⟨u, rfl, -⟩ := hw.cons_of_append ((hw.skipSpace_word r).trans ht)
        exact hne u rfl
  varied {w w' x} hv := by
    obtain ⟨hw, hw'⟩ := hv.sound
    -- a value that is changed is a container, before and after, and so no `null`
    obtain ⟨c, t, t', rfl, rfl, hc⟩ := hv.head
    have hne : ∀ t u, c :: t ≠ 'n' :: u := fun t u heq => by
      rcases hc with rfl | rfl <;> cases heq
    rw [optional_read, optional_read, hw.skipSpace_self, hw'.skipSpace_self]
    constructor
    · rintro (⟨u, hs, -⟩ | ⟨-, a, ha, hx⟩)
      · exact absurd hs (hne t u)
      · exact .inr ⟨hne t', a, (h.varied hv).1 ha, hx⟩
    · rintro (⟨u, hs, -⟩ | ⟨-, a, ha, hx⟩)
      · exact absurd hs (hne t' u)
      · exact .inr ⟨hne t, a, (h.varied hv).2 ha, hx⟩

/-- What a value by itself is read as, when what follows it does not count. -/
theorem read_word {β : Type} {read : List Char → Reading β} {w : List Char} {Q : β → Prop}
    (h : ∀ rest b r, read (w ++ rest) = .ok (b, r) ↔ Q b ∧ r = rest) {b : β} : read w = .ok (b, []) ↔ Q b := by
  have := h [] b []
  rw [List.append_nil] at this
  exact this.trans (and_iff_left rfl)

theorem word_of_start {P : Char → Prop} {read : List Char → Reading α}
    (hstart : ∀ s a r, read s = .ok (a, r) → ∃ c t, skipSpace s = c :: t ∧ P c) {w : List Char} (hw : Sound w)
    (hparts : ∀ c t, w = c :: t → P c → ∃ Q : α → Prop, ∀ rest a r, read (w ++ rest) = .ok (a, r) ↔ Q a ∧ r = rest)
    (rest : List Char) (a : α) (r : List Char) : read (w ++ rest) = .ok (a, r) ↔ read w = .ok (a, []) ∧ r = rest := by
  obtain ⟨c, t, hc, -⟩ := hw.head
  by_cases hP : P c
  · obtain ⟨Q, hQ⟩ := hparts c t hc hP
    exact (hQ rest a r).trans (and_congr_left fun _ => (read_word hQ).symm)
  · have hnone : ∀ rest a r, read (w ++ rest) ≠ .ok (a, r) := by
      intro rest a r hread
      obtain ⟨d, u, hs, hd⟩ := hstart _ _ _ hread
      obtain ⟨v, heq, -⟩ := hw.cons_of_append hs
      cases hc.symm.trans heq
      exact hP hd
    refine iff_of_false (hnone rest a r) fun hread => hnone [] a [] ?_
    rw [List.append_nil]
    exact hread.1

theorem SoundItems.list_read_iff {pad : List Char} {items : List Item} (hi : SoundItems pad items)
    (h : Blind shape form.read) (rest : List Char) (as : List α) (r : List Char) :
    form.list.read (arrayText pad items ++ rest) = .ok (as, r) ↔
      (items.map Item.core).foldlM
        (fun acc core => wholly ((form.read core).map fun (a, r) => (a :: acc, r))) [] = .ok as.reverse ∧ r = rest := by
  rw [list_read, ← hi.readItems_iff fun acc => h.map (· :: acc)]
  have hs : skipSpace (arrayText pad items ++ rest) = '[' :: (itemsText pad true items ++ rest) :=
    skipSpace_of_not (by decide) _
  rw [hs]
  constructor
  · rintro ⟨t, acc, ht, hacc, rfl⟩
    cases ht
    rw [List.reverse_reverse]
    exact hacc
  · exact fun hacc => ⟨_, as.reverse, rfl, hacc, List.reverse_reverse as⟩

theorem Blind.list (h : Blind shape form.read) : Blind (.list shape) form.list.read where
  lead s := by
    unfold Form.list
    dsimp only
    rw [skipSpace_skipSpace]
  word {w rest as r} hw _ := by
    refine word_of_start (P := (· = '[')) (fun s as r hread => ?_) hw (fun c t hc hb => ?_) rest as r
    · obtain ⟨t, -, hs, -⟩ := list_read.1 hread
      exact ⟨'[', t, hs, rfl⟩
    · subst hc hb
      obtain ⟨pad, items, hi, rfl⟩ := hw.of_bracket
      exact ⟨_, hi.list_read_iff h⟩
  varied {w w' as} hv := by
    cases hv with
    | item hi hv =>
      have hreplace : ∀ acc acc', wholly ((form.read _).map fun (a, r) => (a :: acc, r)) = .ok acc' ↔ _ := fun acc acc' =>
        wholly_eq_ok.trans (((h.map (· :: acc)).varied hv).trans wholly_eq_ok.symm)
      rw [read_word (hi.list_read_iff h), read_word ((hi.withCore hv.sound.2).list_read_iff h), List.map_append,
        List.map_append, List.map_cons, List.map_cons]
      exact foldlM_replace hreplace

def Form.mapStep (form : Form α) (key : String) (acc : List (String × α)) (s : List Char) : Reading (List (String × α)) :=
  match expectColon s with
  | .error e => .error e
  | .ok s => (form.read s).map fun (a, r) => (putMember key a acc, r)

theorem Blind.byItself_mapStep (h : Blind shape form.read) : ByItself form.mapStep := by
  intro key gap lead core rest hgap hlead hcore hr acc acc' r
  rw [Form.mapStep, Form.mapStep, expectColon_append hgap, expectColon_cons]
  exact (h.map (putMember key · acc)).spaced hlead hcore hr

theorem SoundMembers.map_read_iff {pad : List Char} {members : List Member} (hm : SoundMembers pad members)
    (h : Blind shape form.read) (rest : List Char) (named : List (String × α)) (r : List Char) :
    form.map.read (objectText pad members ++ rest) = .ok (named, r) ↔
      (members.map Member.bare).foldlM (memberStep form.mapStep) [] = .ok named ∧ r = rest := by
  rw [map_read, ← hm.readMembers_iff h.byItself_mapStep]
  have hs : skipSpace (objectText pad members ++ rest) = '\x7b' :: (membersText pad true members ++ rest) :=
    skipSpace_of_not (by decide) _
  rw [hs]
  constructor
  · rintro ⟨t, ht, hread⟩
    cases ht
    exact hread
  · exact fun hread => ⟨_, rfl, hread⟩

theorem Blind.mapOf (h : Blind shape form.read) : Blind (.map shape) form.map.read where
  lead s := by
    unfold Form.map
    dsimp only
    rw [skipSpace_skipSpace]
  word {w rest named r} hw _ := by
    refine word_of_start (P := (· = '\x7b')) (fun s named r hread => ?_) hw (fun c t hc hb => ?_) rest named r
    · obtain ⟨t, hs, -⟩ := map_read.1 hread
      exact ⟨'\x7b', t, hs, rfl⟩
    · subst hc hb
      obtain ⟨pad, members, hm, rfl⟩ := hw.of_brace
      exact ⟨_, hm.map_read_iff h⟩
  varied {w w' named} hv := by
    cases hv with
    | @entry _ pad before member after core hm hv =>
      rw [read_word (hm.map_read_iff h), read_word ((hm.withCore hv.sound.2).map_read_iff h), List.map_append,
        List.map_append, List.map_cons, List.map_cons]
      refine foldlM_replace fun acc acc' => ?_
      rw [memberStep_eq_ok, memberStep_eq_ok]
      refine exists_congr fun key => and_congr_right fun _ => ?_
      rw [Form.mapStep, Form.mapStep, Member.bare, Member.bare, expectColon_cons, expectColon_cons]
      exact (h.map (putMember key · acc)).varied hv

theorem Blind.checked (h : Blind shape form.read) (check : α → Except Misfit β) :
    Blind shape (form.checked check).read where
  lead s := by
    unfold Form.checked
    dsimp only
    rw [h.lead]
  word {w rest b r} hw hr := by
    rw [checked_read, checked_read]
    constructor
    · rintro ⟨a, ha, hb⟩
      obtain ⟨hword, rfl⟩ := (h.word hw hr).1 ha
      exact ⟨⟨a, hword, hb⟩, rfl⟩
    · rintro ⟨⟨a, ha, hb⟩, rfl⟩
      exact ⟨a, (h.word hw hr).2 ⟨ha, rfl⟩, hb⟩
  varied hv := by
    rw [checked_read, checked_read]
    exact exists_congr fun a => and_congr_left fun _ => h.varied hv

/-! ## One of several names -/

variable {names : List String} {ofName? : String → Option α}

theorem MembersOf.eq_nil_iff {γ : Type} {P : List Char → γ → List Char → Prop} {first : Bool} {s t rest : List Char}
    {parts : List γ} (h : MembersOf P first s parts rest) : skipSpace s = '\x7d' :: t ↔ parts = [] ∧ t = rest := by
  have hiff : skipSpace s = '\x7d' :: t ↔ nextMember first s = .ok (.done t) := nextMember_done_iff.symm
  rw [hiff]
  cases h with
  | done hn => simp [hn, eq_comm]
  | part hn => simp [hn]

theorem SoundMembers.choice_read_iff {pad : List Char} {members : List Member} (hm : SoundMembers pad members)
    (rest : List Char) (a : α) (r : List Char) :
    (Form.choice names ofName?).read (objectText pad members ++ rest) = .ok (a, r) ↔
      (∃ m name, members.map Member.bare = [m] ∧ readString m.1 = .ok (name, []) ∧ ofName? name = some a ∧
        Form.unit.read m.2 = .ok ((), [])) ∧ r = rest := by
  have hs : skipSpace (objectText pad members ++ rest) = '\x7b' :: (membersText pad true members ++ rest) :=
    skipSpace_of_not (by decide) _
  have hparts := hm.membersOf true [] rfl rest
  rw [List.nil_append] at hparts
  rw [choice_read, hs]
  generalize membersText pad true members ++ rest = s at hparts
  generalize members.map Member.bare = parts at hparts
  cases hparts with
  | done hn =>
    -- without a member there is no name
    rw [nextMember_done_iff] at hn
    refine iff_of_false ?_ ?_
    · rintro (⟨t, name, ht, -⟩ | ⟨t, u, name, x, w, y, ht, hu, -⟩)
      · cases ht
      · cases ht
        rw [hn] at hu
        cases hu
    · rintro ⟨⟨m, name, hnil, -⟩, -⟩
      cases hnil
  | part hn hx hmore =>
    rw [nextMember_first_iff] at hn
    obtain ⟨gap, lead, rfl, hgap, hlead, hname, hcore, hends⟩ := hx
    constructor
    · rintro (⟨t, name, ht, -⟩ | ⟨t, u, name, x, w, y, ht, hu, hk, ha, hc, hw, hy⟩)
      · cases ht
      · cases ht
        cases hn.symm.trans hu
        obtain ⟨hkey, rfl⟩ := hname.readString_iff.1 hk
        rw [expectColon_append hgap] at hc
        cases hc
        obtain ⟨hunit, rfl⟩ := (blind_unit.spaced hlead hcore hends).1 hw
        obtain ⟨rfl, rfl⟩ := hmore.eq_nil_iff.1 hy
        exact ⟨⟨_, name, rfl, hkey, ha, hunit⟩, rfl⟩
    · rintro ⟨⟨m, name, hsingle, hkey, ha, hunit⟩, rfl⟩
      cases hsingle
      exact .inr ⟨_, _, name, _, _, _, rfl, hn, hname.readString_iff.2 ⟨hkey, rfl⟩, ha, expectColon_append hgap _,
        (blind_unit.spaced hlead hcore hends).2 ⟨hunit, rfl⟩, hmore.eq_nil_iff.2 ⟨rfl, rfl⟩⟩

theorem blind_choice : Blind .plain (Form.choice names ofName?).read where
  lead s := by
    unfold Form.choice
    dsimp only
    rw [skipSpace_skipSpace]
  word {w rest a r} hw hr := by
    by_cases hb : ∃ t, w = '\x7b' :: t
    · obtain ⟨t, rfl⟩ := hb
      obtain ⟨pad, members, hm, rfl⟩ := hw.of_brace
      exact (hm.choice_read_iff rest a r).trans (and_congr_left fun _ => (read_word hm.choice_read_iff).symm)
    · rw [choice_read, choice_read, hw.skipSpace_word, hw.skipSpace_self]
      constructor
      · rintro (⟨t, name, hs, hx, ha⟩ | ⟨t, u, name, x, v, y, hs, -⟩)
        · obtain ⟨u, rfl, rfl⟩ := hw.cons_of_append ((hw.skipSpace_word rest).trans hs)
          obtain ⟨hname, rfl⟩ := hw.of_quote.readString_iff.1 hx
          exact ⟨.inl ⟨u, name, rfl, hname, ha⟩, rfl⟩
        · obtain ⟨u, rfl, -⟩ := hw.cons_of_append ((hw.skipSpace_word rest).trans hs)
          exact absurd ⟨u, rfl⟩ hb
      · rintro ⟨⟨u, name, rfl, hx, ha⟩ | ⟨t, u, name, x, v, y, rfl, -⟩, rfl⟩
        · exact .inl ⟨u ++ r, name, rfl, hw.of_quote.readString_iff.2 ⟨hx, rfl⟩, ha⟩
        · exact absurd ⟨t, rfl⟩ hb
  varied h := by cases h

/-! ## Whole texts -/

/-- **A text and another with one change in it**; the white space around the value does not count. -/
inductive Changed (shape : Shape) : String → String → Prop where
  | mk {text text' lead w tail lead' w' tail'} : lead.all isSpace → tail.all isSpace → lead'.all isSpace →
      tail'.all isSpace → text.toList = lead ++ (w ++ tail) → text'.toList = lead' ++ (w' ++ tail') →
      Varied shape w w' → Changed shape text text'

theorem Blind.ofText_word (h : Blind shape form.read) {text : String} {lead w tail : List Char} (hlead : lead.all isSpace)
    (htail : tail.all isSpace) (hw : Sound w) (htext : text.toList = lead ++ (w ++ tail)) {a : α} :
    form.ofText text = .ok a ↔ form.read w = .ok (a, []) := by
  rw [ofText_eq_ok, htext]
  constructor
  · rintro ⟨rest, hread, -⟩
    exact ((h.spaced hlead hw (.blank htail)).1 hread).1
  · intro hread
    refine ⟨tail, (h.spaced hlead hw (.blank htail)).2 ⟨hread, rfl⟩, ?_⟩
    have hskip := skipSpace_append tail htail []
    rwa [List.append_nil] at hskip

/-- **Changes do not count**, however many are made or undone. -/
theorem Blind.ofText_iff (h : Blind shape form.read) {text text' : String}
    (hchanged : Relation.EqvGen (Changed shape) text text') {a : α} :
    form.ofText text = .ok a ↔ form.ofText text' = .ok a := by
  induction hchanged with
  | rel text text' hone =>
    obtain ⟨hlead, htail, hlead', htail', htext, htext', hv⟩ := hone
    rw [h.ofText_word hlead htail hv.sound.1 htext, h.ofText_word hlead' htail' hv.sound.2 htext']
    exact h.varied hv
  | refl => exact Iff.rfl
  | symm _ _ _ ih => exact ih.symm
  | trans _ _ _ _ _ ih ih' => exact ih.trans ih'

end

end Json
end SinkReporter
