import SinkReporter.Proofs.Json.Lookup
import SinkReporter.Proofs.Json.Named
import SinkReporter.Proofs.Json.Natural
import Mathlib.Data.List.Forall2
/-!
# Proofs.Json.Strict — records that allow no members but their fields

The members of an object, as they are written, tell the names and the values that it spells (`IsObject.exists_told`).
Whatever is read of an object into a record that allows no others is read of fields only, so the object is spelled as a whole
and can be taken from its value just as well (`Record.Strict.parsed_of_ofText`).  What is taken of it stands under the
names of the fields (`Record.Strict.exists_told`), and the last member of each name tells it (`tells_of_findsOr`).
-/
namespace SinkReporter
namespace Json

/-! ## What members tell -/

def Member.Named (member : Member) (name : String) : Prop := readString member.name = .ok (name, [])

theorem Member.Named.unique {member : Member} {name name' : String} (h : member.Named name) (h' : member.Named name') :
    name = name' := by
  cases h.symm.trans h'
  rfl

/-- **A text is an object with these members**, with white space around it and nothing else. -/
def IsObject (text : String) (members : List Member) : Prop :=
  ∃ lead pad tail, lead.all isSpace ∧ tail.all isSpace ∧ SoundMembers pad members ∧
    text.toList = lead ++ (objectText pad members ++ tail)

theorem IsObject.brace {text : String} {members : List Member} (h : IsObject text members) :
    ∃ t, skipSpace text.toList = '\x7b' :: t := by
  obtain ⟨lead, pad, tail, hlead, -, hsound, htext⟩ := h
  exact ⟨_, htext ▸ hsound.text.skipSpace_append hlead tail⟩

theorem Spelled.exists_isObject {text : String} {entries : List (String × Value)} (h : Spelled text (.object entries)) :
    ∃ members, IsObject text members := by
  obtain ⟨tail, hspells, htail⟩ := h
  obtain ⟨lead, w, hlead, hw, htext⟩ := hspells.passes.exists_sound
  obtain ⟨blank, hblank, heq⟩ := exists_blank tail
  rw [htail, List.append_nil] at heq
  subst heq
  cases hspells with
  | object hs _ =>
    rw [htext, hw.skipSpace_append hlead] at hs
    obtain ⟨u, rfl, -⟩ := hw.cons_of_append ((hw.skipSpace_word tail).trans hs)
    obtain ⟨pad, members, hsound, rfl⟩ := hw.of_brace
    exact ⟨members, lead, pad, tail, hlead, hblank, hsound, htext⟩

theorem exists_isObject {α : Type} {form : Form α} {text : String} {t : List Char} {a : α}
    (hs : skipSpace text.toList = '\x7b' :: t) (ha : form.ofParsedText text = .ok a) :
    ∃ members, IsObject text members := by
  obtain ⟨tree, htree, -⟩ := ofParsedText_eq_ok.1 ha
  have ⟨_, hspells, _⟩ := htree
  obtain ⟨_, entries, rfl, -⟩ := hspells.of_brace hs
  exact htree.exists_isObject

structure Tell (depth : Nat) (written : List Char × List Char) (entry : String × Value) : Prop where
  named : readString written.1 = .ok (entry.1, [])
  sound : Sound written.2
  spells : ∃ rest, Spells depth (written.2 ++ rest) entry.2 rest

structure Told (depth : Nat) where
  member : Member
  entry : String × Value
  tells : Tell depth member.bare entry

def Told.name {depth : Nat} (told : Told depth) : String := told.entry.1

theorem Told.named {depth : Nat} (told : Told depth) : told.member.Named told.name := told.tells.named

/-- **Members that are found in two ways** are found one after the other in both. -/
theorem MembersOf.forall₂ {β γ : Type} {P : List Char → β → List Char → Prop} {Q : List Char → γ → List Char → Prop}
    {R : β → γ → Prop} (hPQ : ∀ t x y u v, P t x u → Q t y v → u = v ∧ R x y) {first : Bool} {s rest rest' : List Char}
    {xs : List β} {ys : List γ} (hx : MembersOf P first s xs rest) (hy : MembersOf Q first s ys rest') :
    List.Forall₂ R xs ys := by
  induction hx generalizing ys with
  | done hn =>
    cases hy with
    | done => exact .nil
    | part hn' => cases hn.symm.trans hn'
  | part hn hP _ ih =>
    cases hy with
    | done hn' => cases hn.symm.trans hn'
    | part hn' hQ hy =>
      cases hn.symm.trans hn'
      obtain ⟨rfl, hR⟩ := hPQ _ _ _ _ _ hP hQ
      exact .cons hR (ih hy)

theorem MemberAt.tells {depth : Nat} {t rest rest' : List Char} {m : List Char × List Char} {entry : String × Value}
    (h : MemberAt t m rest) (hs : SpellsMember depth t entry rest') :
    rest = rest' ∧ Tell depth m entry := by
  obtain ⟨gap, lead, rfl, hgap, hlead, hname, hcore, hends⟩ := h
  obtain ⟨u, w, hk, hc, hv⟩ := hs
  obtain ⟨hnamed, rfl⟩ := hname.readString_iff.1 hk
  cases (expectColon_append hgap _).symm.trans hc
  have hskip : skipSpace (m.2 ++ rest) = skipSpace (lead ++ (m.2 ++ rest)) := by
    rw [hcore.skipSpace_word, hcore.skipSpace_append hlead]
  have hspells := hv.of_skipSpace hskip
  -- the text of a value fixes what is left of it, so both readings of this one stop at the same place
  obtain rfl := (hcore.passes hends).unique hspells.passes
  exact ⟨rfl, hnamed, hcore, rest, hspells⟩

theorem exists_told {depth : Nat} {members : List Member} {entries : List (String × Value)}
    (h : List.Forall₂ (fun m entry => Tell depth (Member.bare m) entry) members entries) :
    ∃ told : List (Told depth), members = told.map Told.member ∧ entries = told.map Told.entry := by
  induction h with
  | nil => exact ⟨[], rfl, rfl⟩
  | @cons m entry _ _ h _ ih =>
    obtain ⟨told, rfl, rfl⟩ := ih
    exact ⟨⟨m, entry, h⟩ :: told, rfl, rfl⟩

/-- **The members of an object tell what it spells.** -/
theorem IsObject.exists_told {text : String} {members : List Member} {entries : List (String × Value)}
    (h : IsObject text members) (hs : Spelled text (.object entries)) :
    ∃ depth, ∃ told : List (Told depth), members = told.map Told.member ∧ entries = told.map Told.entry := by
  obtain ⟨lead, pad, tail, hlead, -, hsound, htext⟩ := h
  obtain ⟨rest, hspells, -⟩ := hs
  obtain ⟨depth, _, heq, hm⟩ := hspells.of_brace (htext ▸ hsound.text.skipSpace_append hlead tail)
  cases heq
  have htell : List.Forall₂ (Tell depth) (members.map Member.bare) entries :=
    (hsound.membersOf true [] rfl tail).forall₂ (fun _ _ _ _ _ h hs => h.tells hs) hm.membersOf
  exact ⟨depth, Json.exists_told (List.forall₂_map_left_iff.1 htell)⟩

def Member.IsLastNamed (member : Member) (name : String) (members : List Member) : Prop :=
  member.Named name ∧ ∃ before after, members = before ++ member :: after ∧ ∀ m ∈ after, ¬ m.Named name

/-- **What the members of a name tell**: nothing when there are none, and else what the last of them tells, which is nothing
again when it is `null`.  `Stands` says what the text of a value stands for. -/
inductive Tells {α : Type} (Stands : List Char → α → Prop) (name : String) (members : List Member) : Option α → Prop where
  | absent (h : ∀ m ∈ members, ¬ m.Named name) : Tells Stands name members none
  | null {m : Member} (hm : m.IsLastNamed name members) (h : m.value.core = ['n', 'u', 'l', 'l']) :
    Tells Stands name members none
  | value {m : Member} {a : α} (hm : m.IsLastNamed name members) (h : Stands m.value.core a) :
    Tells Stands name members (some a)

/-! ## Forms that read what is spelled -/

section

variable {α : Type} {form : Form α}

def Form.ReadsSpelled (form : Form α) : Prop :=
  ∀ (depth : Nat) {s r : List Char} {a : α}, form.read s = .ok (a, r) → ∃ v, Spells depth s v r

theorem readsSpelled_text : Form.text.ReadsSpelled := fun _ _ _ _ h => by
  obtain ⟨t, hs, hx⟩ := text_read.1 h
  exact ⟨_, .string hs hx⟩

theorem readsSpelled_natural : Form.natural.ReadsSpelled := fun _ _ _ _ h => by
  obtain ⟨c, t, n, hs, hc, hn, -⟩ := natural_read.1 h
  exact ⟨_, .number hs hc hn⟩

theorem Form.ReadsSpelled.optional (hf : form.ReadsSpelled) : form.optional.ReadsSpelled := fun depth s r x h => by
  rcases optional_read.1 h with ⟨t, hs, he, -⟩ | ⟨-, a, ha, -⟩
  · exact ⟨_, .null hs he⟩
  · obtain ⟨v, hv⟩ := hf depth ha
    exact ⟨v, hv.of_skipSpace (skipSpace_skipSpace s).symm⟩

/-- **What a value is written as stands for what is taken from it.** -/
def Form.Writes (form : Form α) (Stands : List Char → α → Prop) : Prop :=
  ∀ {depth : Nat} {core rest : List Char} {v : Value} {a : α}, Sound core → Spells depth (core ++ rest) v rest →
    form.take v.canonical = .ok a → Stands core a

def StandsForText (core : List Char) (x : String) : Prop := ∃ w, core = '"' :: w ∧ readString w = .ok (x, [])

/-- A natural number in decimal, without a sign, a fraction, an exponent or zeros in front. -/
def StandsForNatural (core : List Char) (x : UInt64) : Prop := core = (toString x).toList

theorem toList_toString (x : UInt64) : (toString x).toList = Nat.toDigits 10 x.toNat := Nat.toList_repr

theorem writes_text : Form.text.Writes StandsForText := by
  intro depth core rest v x hcore hv hx
  cases v with
  | string y =>
    cases hx
    cases hv with
    | string hs hread =>
      obtain ⟨w, rfl, rfl⟩ := hcore.cons_of_append hs
      exact ⟨w, rfl, (hcore.of_quote.readString_iff.1 hread).1⟩
  | _ => cases hx

theorem writes_natural : Form.natural.Writes StandsForNatural := by
  intro depth core rest v x hcore hv hx
  cases v with
  | number n =>
    obtain ⟨m, rfl, hm, rfl⟩ := natural_eq_ok.1 hx
    cases hv with
    | number hs _ hread =>
      rw [← hs, hcore.skipSpace_word] at hread
      obtain ⟨n, rfl, hn, hdigits⟩ := toDigits_of_readNumber hread hm
      rw [List.append_cancel_right hdigits, StandsForNatural, Int.toNat_natCast, toList_toString,
        UInt64.toNat_ofNat_of_lt' hn]
  | _ => cases hx

end

def Field.ReadsSpelled {ρ : Type} (f : Field ρ) : Prop :=
  ∀ (depth : Nat) {d d' : ρ} {s r : List Char}, f.read d s = .ok (d', r) → ∃ v, Spells depth s v r

theorem Field.readsSpelled_of {ρ α : Type} {form : Form α} (h : form.ReadsSpelled) {name : String} {get : ρ → Option α}
    {put : ρ → α → ρ} {ends : Bool} : (Field.of name form get put ends).ReadsSpelled := fun depth _ _ _ _ hr => by
  obtain ⟨_, ha, heq⟩ := map_eq_ok.1 hr
  cases heq
  exact h depth ha

/-! ## What is found under a name -/

section

variable {depth : Nat} {told : List (Told depth)} {name : String}

def look (told : List (Told depth)) (name : String) : Option Value :=
  (sortMembers (canonicalMembers (told.map Told.entry))).lookup name

theorem look_eq_some {v : Value} :
    look told name = some v ↔ IsLast (name, v) (told.map fun t => (t.name, t.entry.2.canonical)) := by
  rw [look, lookup_eq_some_iff (nodup_of_ascending (ascending_sortMembers _)), mem_sortMembers_iff, canonicalMembers_eq_map,
    List.map_map]
  rfl

theorem exists_look {t : Told depth} (ht : t ∈ told) : ∃ v, look told t.name = some v := by
  obtain ⟨v, hv⟩ := exists_isLast (List.mem_map.2
    ⟨(t.name, t.entry.2.canonical), List.mem_map.2 ⟨t, ht, rfl⟩, rfl⟩ :
      t.name ∈ (told.map fun t => (t.name, t.entry.2.canonical)).map (·.1))
  exact ⟨v, look_eq_some.2 hv⟩

/-- **What is found under a name is told by the last member of this name.** -/
theorem exists_lastNamed {v : Value} (h : look told name = some v) :
    ∃ t ∈ told, t.member.IsLastNamed name (told.map Told.member) ∧ t.entry.2.canonical = v := by
  obtain ⟨before, after, heq, hlast⟩ := look_eq_some.1 h
  obtain ⟨before, rest, rfl, -, hrest⟩ := List.map_eq_append_iff.1 heq
  obtain ⟨t, after, rfl, ht, rfl⟩ := List.map_eq_cons_iff.1 hrest
  obtain ⟨rfl, rfl⟩ := Prod.mk.inj ht
  refine ⟨t, List.mem_append_right before List.mem_cons_self,
    ⟨t.named, before.map Told.member, after.map Told.member, List.map_append, fun m hm hnamed => ?_⟩, rfl⟩
  obtain ⟨u, hu, rfl⟩ := List.mem_map.1 hm
  exact hlast (List.mem_map.2 ⟨_, List.mem_map.2 ⟨u, hu, rfl⟩, u.named.unique hnamed⟩)

theorem not_named_of_look (h : look told name = none) : ∀ m ∈ told.map Told.member, ¬ m.Named name := by
  intro m hm hnamed
  obtain ⟨t, ht, rfl⟩ := List.mem_map.1 hm
  obtain rfl := hnamed.unique t.named
  obtain ⟨v, hv⟩ := exists_look ht
  cases h.symm.trans hv

/-- **A field that may be `null` is told by the last member of its name.** -/
theorem tells_of_findsOr {α : Type} {form : Form α} {Stands : List Char → α → Prop} (hform : form.Writes Stands)
    {x : Option α} (h : form.optional.FindsOr none (look told name) x) :
    Tells Stands name (told.map Told.member) x := by
  rcases h with ⟨hnone, rfl⟩ | ⟨v, hv, hx⟩
  · exact .absent (not_named_of_look hnone)
  · obtain ⟨t, -, hlast, rfl⟩ := exists_lastNamed hv
    obtain ⟨rest, hspells⟩ := t.tells.spells
    have hcore := t.tells.sound
    -- a form that may be `null` takes `null` for nothing, and leaves every other value to the form inside it
    by_cases hnull : t.entry.2.canonical = .null
    · rw [hnull] at hx
      cases hx
      rw [canonical_eq_null.1 hnull] at hspells
      cases hspells with
      | null hs _ =>
        obtain ⟨u, hu, -⟩ := hcore.cons_of_append hs
        rw [hu] at hcore
        exact .null hlast (hu.trans (congrArg (List.cons 'n') hcore.of_n))
    · obtain ⟨a, ha, rfl⟩ := (optional_take hnull).1 hx
      exact .value hlast (hform hcore hspells ha)

end

/-! ## Records -/

namespace Record

variable {ρ α : Type} {record : Record ρ α} {text : String} {t : List Char} {a : α}

/-- **A record that allows no members but its fields**, which are read from what is spelled, each under a name of its
own. -/
structure Strict (record : Record ρ α) : Prop extends record.Lawful where
  exact : record.exact = true
  names : record.names.Nodup
  spelled : ∀ f ∈ record.fields, f.ReadsSpelled

theorem Strict.spells_of_readMember (h : record.Strict) (depth : Nat) {key : String} {d d' : ρ} {s r : List Char}
    (hr : record.readMember key d s = .ok (d', r)) : ∃ w v, expectColon s = .ok w ∧ Spells depth w v r := by
  rcases readMember_eq_ok.1 hr with ⟨f, w, hf, -, hc, hw⟩ | ⟨-, hpasses, -⟩
  · obtain ⟨v, hv⟩ := h.spelled f (mem_of_field? hf).1 depth hw
    exact ⟨w, v, hc, hv⟩
  · rw [h.exact] at hpasses
    cases hpasses

/-- **An object from which such a record is read** is spelled as a whole. -/
theorem Strict.exists_object (h : record.Strict) (hs : skipSpace text.toList = '\x7b' :: t)
    (ha : record.form.ofText text = .ok a) : ∃ entries, Spelled text (.object entries) := by
  obtain ⟨rest, hread, hrest⟩ := ofText_eq_ok.1 ha
  rcases read_form.1 hread with ⟨u, d, hu, -⟩ | ⟨u, d, hu, hd, -⟩
  · cases hs.symm.trans hu
  · obtain ⟨entries, hm⟩ := exists_spellsMembers (fun _ _ _ _ _ => h.spells_of_readMember 126) hd
    exact ⟨entries, rest, .object hu hm, hrest⟩

/-- **What is read of an object straight through can be taken from its value.** -/
theorem Strict.parsed_of_ofText (h : record.Strict) (hs : skipSpace text.toList = '\x7b' :: t)
    (ha : record.form.ofText text = .ok a) : record.form.ofParsedText text = .ok a := by
  obtain ⟨entries, hspelled⟩ := h.exists_object hs ha
  exact (h.form.read_spelled hspelled ((h.form.ofText_iff hspelled).1 ha)).2

/-- **An object that is taken** has no members but the fields, each of which is found under its name. -/
theorem Strict.exists_told (h : record.Strict) {members : List Member} (hobject : IsObject text members)
    (ha : record.form.ofParsedText text = .ok a) :
    ∃ depth, ∃ told : List (Told depth), members = told.map Told.member ∧ topNames text.toList = told.map Told.name ∧
      (∀ t ∈ told, t.name ∈ record.names) ∧
      ∃ d, record.fields.foldlM (Field.takeFrom (look told)) record.blank = .ok d ∧ record.finish d = .ok a := by
  obtain ⟨tree, htree, ha⟩ := ofParsedText_eq_ok.1 ha
  have ⟨_, hspells, _⟩ := htree
  obtain ⟨t, hs⟩ := hobject.brace
  obtain ⟨_, entries, rfl, -⟩ := hspells.of_brace hs
  obtain ⟨depth, told, rfl, rfl⟩ := hobject.exists_told htree
  have hnodup := nodup_of_ascending (ascending_sortMembers (canonicalMembers (told.map Told.entry)))
  obtain ⟨hnames, d, hd, hfinish⟩ := (h.take_exact_iff h.exact h.names hnodup).1 ha
  refine ⟨depth, told, rfl, ?_, fun t ht => ?_, d, hd, hfinish⟩
  · rw [topNames_of_spells hspells, List.map_map]
    rfl
  · obtain ⟨v, hv⟩ := exists_look ht
    exact hnames (t.name, v) ((lookup_eq_some_iff hnodup).1 hv)

/-- **No name is given twice in an object that is read straight through.** -/
theorem Strict.nodup_topNames (h : record.Strict) (hnames : ∀ name ∈ topNames text.toList, name ∈ record.names)
    (ha : record.form.ofText text = .ok a) : (topNames text.toList).Nodup := by
  refine List.nodup_iff_count.2 fun name => ?_
  by_cases hname : name ∈ topNames text.toList
  · obtain ⟨rest, hread, -⟩ := ofText_eq_ok.1 ha
    exact h.count_topNames hread (hnames name hname)
  · rw [List.count_eq_zero.2 hname]
    exact Nat.zero_le 1

end Record

end Json
end SinkReporter
