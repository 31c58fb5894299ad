import SinkReporter.Proofs.Json.Passing
import SinkReporter.Proofs.Json.Words
/-!
# Proofs.Json.Layout — well-formed values as they are written

`Sound` says what a well-formed value looks like, from its first character to its last: containers may nest to any depth,
and there may be any white space between their parts.  Such a value is passed over (`Sound.passes`), and whatever is passed
over is such a value after some white space (`Passes.exists_sound`).
-/
namespace SinkReporter
namespace Json

/-! ## Parts of containers -/

/-- An item of an array as it is written, between the white space before it and after it. -/
structure Item where
  lead : List Char
  core : List Char
  tail : List Char

/-- A member of an object as it is written.  Its name starts after the opening quote and ends with the closing one. -/
structure Member where
  lead : List Char
  name : List Char
  gap : List Char
  value : Item

def Item.withCore (item : Item) (core : List Char) : Item := { item with core }

def Member.withCore (member : Member) (core : List Char) : Member := { member with value := member.value.withCore core }

def Item.text (item : Item) : List Char := item.lead ++ (item.core ++ item.tail)

def Member.text (member : Member) : List Char :=
  member.lead ++ '"' :: (member.name ++ (member.gap ++ ':' :: member.value.text))

/-- The characters of the items of an array and its closing bracket, with white space before that. -/
def itemsText (pad : List Char) : Bool → List Item → List Char
  | _, [] => pad ++ [']']
  | first, item :: rest => separator first ++ (item.text ++ itemsText pad false rest)

def membersText (pad : List Char) : Bool → List Member → List Char
  | _, [] => pad ++ ['\x7d']
  | first, member :: rest => separator first ++ (member.text ++ membersText pad false rest)

def arrayText (pad : List Char) (items : List Item) : List Char := '[' :: itemsText pad true items

def objectText (pad : List Char) (members : List Member) : List Char := '\x7b' :: membersText pad true members

structure Item.Spaced (item : Item) : Prop where
  lead : item.lead.all isSpace
  tail : item.tail.all isSpace

/-- There is nothing but white space between the parts of a member, and its name is a string. -/
structure Member.Spaced (member : Member) : Prop where
  lead : member.lead.all isSpace
  name : StringText member.name
  gap : member.gap.all isSpace
  value : member.value.Spaced

/-! ## Well-formed values -/

/-- **A well-formed value as it is written**, without white space around it. -/
inductive Sound : List Char → Prop where
  | null : Sound ['n', 'u', 'l', 'l']
  | yes : Sound ['t', 'r', 'u', 'e']
  | no : Sound ['f', 'a', 'l', 's', 'e']
  | number {w} : NumberText w → Sound w
  | string {w} : StringText w → Sound ('"' :: w)
  | array {pad items} : pad.all isSpace → (∀ i ∈ items, i.Spaced) → (∀ i ∈ items, Sound i.core) →
      Sound (arrayText pad items)
  | object {pad members} : pad.all isSpace → (∀ m ∈ members, m.Spaced) → (∀ m ∈ members, Sound m.value.core) →
      Sound (objectText pad members)

def starts (c : Char) : Bool := c ∈ ['n', 't', 'f', '"', '[', '\x7b', '-'] || (digit? c).isSome

theorem starts_ne {c : Char} (h : starts c) : isSpace c = false ∧ c ≠ ']' := by
  refine ⟨?_, ?_⟩
  · rw [← Bool.not_eq_true]
    intro hs
    simp only [isSpace, Bool.or_eq_true, decide_eq_true_eq] at hs
    rcases hs with ((rfl | rfl) | rfl) | rfl <;> revert h <;> decide
  · rintro rfl
    revert h
    decide

theorem Sound.head {w : List Char} (h : Sound w) : ∃ c t, w = c :: t ∧ starts c := by
  cases h with
  | null => exact ⟨'n', _, rfl, by decide⟩
  | yes => exact ⟨'t', _, rfl, by decide⟩
  | no => exact ⟨'f', _, rfl, by decide⟩
  | number h =>
    obtain ⟨c, t, rfl, hc | hc⟩ := h.head
    · exact ⟨c, t, rfl, by rw [hc]; decide⟩
    · exact ⟨c, t, rfl, by rw [starts, hc, Bool.or_true]⟩
  | string => exact ⟨'"', _, rfl, by decide⟩
  | array => exact ⟨'[', _, rfl, by decide⟩
  | object => exact ⟨'\x7b', _, rfl, by decide⟩

theorem Sound.skipSpace_append {lead w : List Char} (h : Sound w) (hlead : lead.all isSpace) (rest : List Char) :
    skipSpace (lead ++ (w ++ rest)) = w ++ rest := by
  obtain ⟨c, t, rfl, hc⟩ := h.head
  rw [Json.skipSpace_append lead hlead, List.cons_append, skipSpace_of_not (starts_ne hc).1]

theorem Sound.skipSpace_word {w : List Char} (h : Sound w) (rest : List Char) : skipSpace (w ++ rest) = w ++ rest :=
  h.skipSpace_append (show ([] : List Char).all isSpace from rfl) rest

theorem Sound.cons_of_append {w rest t : List Char} {c : Char} (h : Sound w) (hs : skipSpace (w ++ rest) = c :: t) :
    ∃ u, w = c :: u ∧ t = u ++ rest := by
  obtain ⟨d, u, rfl, hd⟩ := h.head
  rw [List.cons_append, skipSpace_of_not (starts_ne hd).1, List.cons.injEq] at hs
  exact ⟨u, by rw [hs.1], hs.2.symm⟩

theorem Sound.skipSpace_self {w : List Char} (h : Sound w) : skipSpace w = w := by
  obtain ⟨c, t, rfl, hc⟩ := h.head
  exact skipSpace_of_not (starts_ne hc).1 t

theorem NumberText.ne {c : Char} {t : List Char} (h : NumberText (c :: t)) :
    c ≠ 'n' ∧ c ≠ 't' ∧ c ≠ 'f' ∧ c ≠ '"' ∧ c ≠ '[' ∧ c ≠ '\x7b' := by
  obtain ⟨d, u, heq, hd⟩ := h.head
  cases heq
  exact number_ne hd

theorem Sound.of_n {t : List Char} (h : Sound ('n' :: t)) : t = ['u', 'l', 'l'] := by
  cases h with
  | null => rfl
  | number h => exact absurd rfl h.ne.1

theorem Sound.of_t {t : List Char} (h : Sound ('t' :: t)) : t = ['r', 'u', 'e'] := by
  cases h with
  | yes => rfl
  | number h => exact absurd rfl h.ne.2.1

theorem Sound.of_f {t : List Char} (h : Sound ('f' :: t)) : t = ['a', 'l', 's', 'e'] := by
  cases h with
  | no => rfl
  | number h => exact absurd rfl h.ne.2.2.1

theorem Sound.of_quote {t : List Char} (h : Sound ('"' :: t)) : StringText t := by
  cases h with
  | string h => exact h
  | number h => exact absurd rfl h.ne.2.2.2.1

/-- Items of an array that is well formed, with `pad` before its closing bracket. -/
structure SoundItems (pad : List Char) (items : List Item) : Prop where
  pad : pad.all isSpace
  spaced : ∀ i ∈ items, i.Spaced
  sound : ∀ i ∈ items, Sound i.core

/-- Members of an object that is well formed, with `pad` before its closing brace. -/
structure SoundMembers (pad : List Char) (members : List Member) : Prop where
  pad : pad.all isSpace
  spaced : ∀ m ∈ members, m.Spaced
  sound : ∀ m ∈ members, Sound m.value.core

theorem SoundItems.text {pad : List Char} {items : List Item} (h : SoundItems pad items) : Sound (arrayText pad items) :=
  .array h.pad h.spaced h.sound

theorem SoundMembers.text {pad : List Char} {members : List Member} (h : SoundMembers pad members) :
    Sound (objectText pad members) :=
  .object h.pad h.spaced h.sound

theorem Sound.of_bracket {t : List Char} (h : Sound ('[' :: t)) :
    ∃ pad items, SoundItems pad items ∧ t = itemsText pad true items := by
  generalize hw : '[' :: t = w at h
  cases h with
  | array hpad hspaced hsound =>
    cases hw
    exact ⟨_, _, ⟨hpad, hspaced, hsound⟩, rfl⟩
  | number h =>
    subst hw
    exact absurd rfl h.ne.2.2.2.2.1
  | _ => cases hw

theorem Sound.of_brace {t : List Char} (h : Sound ('\x7b' :: t)) :
    ∃ pad members, SoundMembers pad members ∧ t = membersText pad true members := by
  generalize hw : '\x7b' :: t = w at h
  cases h with
  | object hpad hspaced hsound =>
    cases hw
    exact ⟨_, _, ⟨hpad, hspaced, hsound⟩, rfl⟩
  | number h =>
    subst hw
    exact absurd rfl h.ne.2.2.2.2.2
  | _ => cases hw

/-! ## The parts that are written are the parts that are found -/

/-- The core of an item stands at the start of a text, before the end of the item. -/
def CoreAt (t core rest : List Char) : Prop := t = core ++ rest ∧ Sound core ∧ Ends rest

/-- The name of a member stands at the start of a text, and its core after the colon. -/
def MemberAt (t : List Char) (m : List Char × List Char) (rest : List Char) : Prop :=
  ∃ gap lead, t = m.1 ++ (gap ++ ':' :: (lead ++ (m.2 ++ rest))) ∧ gap.all isSpace ∧ lead.all isSpace ∧ StringText m.1 ∧
    Sound m.2 ∧ Ends rest

def Member.bare (member : Member) : List Char × List Char := (member.name, member.value.core)

theorem ends_itemsText {pad tail : List Char} (hpad : pad.all isSpace) (ht : tail.all isSpace) (items : List Item)
    (rest : List Char) : Ends (tail ++ (itemsText pad false items ++ rest)) := by
  refine .append ht ?_
  cases items with
  | nil =>
    rw [itemsText, List.append_assoc]
    exact .append hpad (.cons (by decide) _)
  | cons i items => exact .cons (by decide) _

theorem ends_membersText {pad tail : List Char} (hpad : pad.all isSpace) (ht : tail.all isSpace) (members : List Member)
    (rest : List Char) : Ends (tail ++ (membersText pad false members ++ rest)) := by
  refine .append ht ?_
  cases members with
  | nil =>
    rw [membersText, List.append_assoc]
    exact .append hpad (.cons (by decide) _)
  | cons m members => exact .cons (by decide) _

variable {pad rest : List Char} {items : List Item} {members : List Member}

/-- **The items of an array are found one after the other.**  White space after an item counts as standing before what
comes next. -/
theorem SoundItems.itemsOf (h : SoundItems pad items) (first : Bool) (before : List Char) (hbefore : before.all isSpace)
    (rest : List Char) :
    ItemsOf CoreAt first (before ++ (itemsText pad first items ++ rest)) (items.map Item.core) rest := by
  obtain ⟨hpad, hspaced, hsound⟩ := h
  -- what stands before the next separator is carried along: nothing at first, later what follows an item
  induction items generalizing first before with
  | nil =>
    rw [itemsText, List.append_assoc]
    refine .done (nextItem_done_iff.2 ?_)
    rw [skipSpace_append before hbefore, skipSpace_append pad hpad]
    exact skipSpace_of_not (by decide) rest
  | cons i items ih =>
    obtain ⟨hi, hspaced⟩ := List.forall_mem_cons.1 hspaced
    obtain ⟨hcore, hsound⟩ := List.forall_mem_cons.1 hsound
    obtain ⟨c, t, heq, hc⟩ := hcore.head
    have htext : itemsText pad first (i :: items) ++ rest =
        separator first ++ (i.lead ++ (i.core ++ (i.tail ++ (itemsText pad false items ++ rest)))) := by
      simp [itemsText, Item.text]
    have hskip := hcore.skipSpace_append hi.lead (i.tail ++ (itemsText pad false items ++ rest))
    rw [htext]
    refine .part ?_ ⟨rfl, hcore, ends_itemsText hpad hi.tail items rest⟩ (ih false _ hi.tail hspaced hsound)
    rw [heq] at hskip ⊢
    cases first with
    | true =>
      refine nextItem_first_iff.2 ⟨c, _, rfl, ?_, (starts_ne hc).2⟩
      rw [skipSpace_append before hbefore]
      exact hskip
    | false =>
      refine nextItem_later_iff.2 ⟨c, _, _, rfl, ?_, hskip, (starts_ne hc).2⟩
      rw [skipSpace_append before hbefore]
      exact skipSpace_of_not (by decide) _

/-- **The members of an object are found one after the other.** -/
theorem SoundMembers.membersOf (h : SoundMembers pad members) (first : Bool) (before : List Char)
    (hbefore : before.all isSpace) (rest : List Char) :
    MembersOf MemberAt first (before ++ (membersText pad first members ++ rest)) (members.map Member.bare) rest := by
  obtain ⟨hpad, hspaced, hsound⟩ := h
  induction members generalizing first before with
  | nil =>
    rw [membersText, List.append_assoc]
    refine .done (nextMember_done_iff.2 ?_)
    rw [skipSpace_append before hbefore, skipSpace_append pad hpad]
    exact skipSpace_of_not (by decide) rest
  | cons m members ih =>
    obtain ⟨hm, hspaced⟩ := List.forall_mem_cons.1 hspaced
    obtain ⟨hcore, hsound⟩ := List.forall_mem_cons.1 hsound
    have htext : membersText pad first (m :: members) ++ rest =
        separator first ++ (m.lead ++ '"' :: (m.name ++ (m.gap ++ ':' :: (m.value.lead ++ (m.value.core ++
          (m.value.tail ++ (membersText pad false members ++ rest))))))) := by
      simp [membersText, Member.text, Item.text]
    have hquote : ∀ t, skipSpace (m.lead ++ '"' :: t) = '"' :: t := fun t => by
      rw [skipSpace_append m.lead hm.lead]
      exact skipSpace_of_not (by decide) t
    rw [htext]
    refine .part ?_ ⟨m.gap, m.value.lead, rfl, hm.gap, hm.value.lead, hm.name, hcore,
      ends_membersText hpad hm.value.tail members rest⟩ (ih false _ hm.value.tail hspaced hsound)
    cases first with
    | true =>
      refine nextMember_first_iff.2 ?_
      rw [skipSpace_append before hbefore]
      exact hquote _
    | false =>
      refine nextMember_later_iff.2 ⟨_, ?_, hquote _⟩
      rw [skipSpace_append before hbefore]
      exact skipSpace_of_not (by decide) _

/-! ## Well-formed values are passed over -/

theorem ItemsOf.passes {β : Type} {P : List Char → β → List Char → Prop} {first : Bool} {s : List Char} {parts : List β}
    (h : ItemsOf P first s parts rest) (hP : ∀ x ∈ parts, ∀ {t u}, P t x u → Passes t u) : PassesItems first s rest := by
  induction h with
  | done hn => exact .done hn
  | part hn hx _ ih =>
    obtain ⟨hP, hmore⟩ := List.forall_mem_cons.1 hP
    exact .part hn (hP hx) (ih hmore)

theorem MembersOf.passes {β : Type} {P : List Char → β → List Char → Prop} {first : Bool} {s : List Char} {parts : List β}
    (h : MembersOf P first s parts rest)
    (hP : ∀ x ∈ parts, ∀ {t u}, P t x u → ∃ v w, skipString t = .ok v ∧ expectColon v = .ok w ∧ Passes w u) :
    PassesMembers first s rest := by
  induction h with
  | done hn => exact .done hn
  | part hn hx _ ih =>
    obtain ⟨hP, hmore⟩ := List.forall_mem_cons.1 hP
    obtain ⟨v, w, hname, hcolon, hvalue⟩ := hP hx
    exact .part hn hname hcolon hvalue (ih hmore)

theorem expectColon_cons (s : List Char) : expectColon (':' :: s) = .ok s :=
  expectColon_eq_ok.2 (skipSpace_of_not (by decide) s)

theorem expectColon_append {gap : List Char} (hgap : gap.all isSpace) (s : List Char) :
    expectColon (gap ++ ':' :: s) = .ok s :=
  expectColon_eq_ok.2 ((skipSpace_append gap hgap _).trans (skipSpace_of_not (by decide) s))

theorem SoundItems.passes (h : SoundItems pad items) (hpasses : ∀ i ∈ items, ∀ {u}, Ends u → Passes (i.core ++ u) u)
    (rest : List Char) : PassesItems true (itemsText pad true items ++ rest) rest := by
  refine (h.itemsOf true [] rfl rest).passes fun core hcore => ?_
  obtain ⟨i, hi, rfl⟩ := List.mem_map.1 hcore
  rintro t u ⟨rfl, -, hends⟩
  exact hpasses i hi hends

theorem SoundMembers.passes (h : SoundMembers pad members)
    (hpasses : ∀ m ∈ members, ∀ {u}, Ends u → Passes (m.value.core ++ u) u) (rest : List Char) :
    PassesMembers true (membersText pad true members ++ rest) rest := by
  refine (h.membersOf true [] rfl rest).passes fun part hpart => ?_
  obtain ⟨m, hm, rfl⟩ := List.mem_map.1 hpart
  rintro t u ⟨gap, lead, rfl, hgap, hlead, hname, hcore, hends⟩
  refine ⟨_, _, skipString_append hname _, expectColon_append hgap _, Passes.of_skipSpace ?_⟩
  rw [hcore.skipSpace_append hlead]
  exact hpasses m hm hends

/-- **A well-formed value is passed over**, unless it is a number that might go on. -/
theorem Sound.passes {w : List Char} (h : Sound w) {rest : List Char} (hr : Ends rest) : Passes (w ++ rest) rest := by
  induction h generalizing rest with
  | null => exact .null (skipSpace_of_not (by decide) _) (expect_append ['u', 'l', 'l'] rest)
  | yes => exact .yes (skipSpace_of_not (by decide) _) (expect_append ['r', 'u', 'e'] rest)
  | no => exact .no (skipSpace_of_not (by decide) _) (expect_append ['a', 'l', 's', 'e'] rest)
  | number hw =>
    obtain ⟨c, t, rfl, hc⟩ := hw.head
    have hstart := (Sound.number hw).skipSpace_word rest
    exact .number hstart hc (skipNumber_append hw hr)
  | string hw => exact .string (skipSpace_of_not (by decide) _) (skipString_append hw rest)
  | array hpad hspaced hsound ih =>
    exact .array (skipSpace_of_not (by decide) _) (SoundItems.passes ⟨hpad, hspaced, hsound⟩ (fun i hi {_} => ih i hi) rest)
  | object hpad hspaced hsound ih =>
    exact .object (skipSpace_of_not (by decide) _) (SoundMembers.passes ⟨hpad, hspaced, hsound⟩ (fun m hm {_} => ih m hm) rest)

/-! ## What is passed over is well formed -/

theorem exists_blank (s : List Char) : ∃ blank, blank.all isSpace ∧ s = blank ++ skipSpace s :=
  ⟨s.takeWhile isSpace, List.all_takeWhile, List.takeWhile_append_dropWhile.symm⟩

theorem exists_expected {word s rest : List Char} (h : expect word s = .ok rest) : s = word ++ rest := by
  induction word generalizing s with
  | nil =>
    cases h
    rfl
  | cons c word ih =>
    cases s with
    | nil => cases h
    | cons d s =>
      rw [expect] at h
      split at h
      · rename_i hc
        rw [hc, ih h, List.cons_append]
      · cases h

/-- What stands before a part: a comma unless it is the first, with white space before it and after it. -/
theorem exists_of_nextItem {first : Bool} {s t : List Char} (h : nextItem first s = .ok (.part t)) :
    ∃ before lead, before.all isSpace ∧ (first = true → before = []) ∧ lead.all isSpace ∧
      s = before ++ (separator first ++ (lead ++ t)) := by
  cases first with
  | true =>
    obtain ⟨c, u, rfl, hs, -⟩ := nextItem_first_iff.1 h
    obtain ⟨lead, hlead, heq⟩ := exists_blank s
    exact ⟨[], lead, rfl, fun _ => rfl, hlead, by rw [heq, hs]; rfl⟩
  | false =>
    obtain ⟨c, u, v, rfl, hs, hv, -⟩ := nextItem_later_iff.1 h
    obtain ⟨before, hbefore, heq⟩ := exists_blank s
    obtain ⟨lead, hlead, hveq⟩ := exists_blank v
    exact ⟨before, lead, hbefore, (fun h => by cases h), hlead, by rw [heq, hs, hveq, hv]; rfl⟩

theorem exists_of_nextMember {first : Bool} {s t : List Char} (h : nextMember first s = .ok (.part t)) :
    ∃ before lead, before.all isSpace ∧ (first = true → before = []) ∧ lead.all isSpace ∧
      s = before ++ (separator first ++ (lead ++ '"' :: t)) := by
  cases first with
  | true =>
    obtain ⟨lead, hlead, heq⟩ := exists_blank s
    exact ⟨[], lead, rfl, fun _ => rfl, hlead, by rw [heq, nextMember_first_iff.1 h]; rfl⟩
  | false =>
    obtain ⟨v, hs, hv⟩ := nextMember_later_iff.1 h
    obtain ⟨before, hbefore, heq⟩ := exists_blank s
    obtain ⟨lead, hlead, hveq⟩ := exists_blank v
    exact ⟨before, lead, hbefore, (fun h => by cases h), hlead, by rw [heq, hs, hveq, hv]; rfl⟩

mutual
/-- **What is passed over is a well-formed value** after some white space. -/
theorem Passes.exists_sound : ∀ {s rest : List Char}, Passes s rest →
    ∃ lead w, lead.all isSpace ∧ Sound w ∧ s = lead ++ (w ++ rest)
  | s, _, .null hs he => by
    obtain ⟨lead, hlead, heq⟩ := exists_blank s
    exact ⟨lead, _, hlead, .null, by rw [heq, hs, exists_expected he]; rfl⟩
  | s, _, .yes hs he => by
    obtain ⟨lead, hlead, heq⟩ := exists_blank s
    exact ⟨lead, _, hlead, .yes, by rw [heq, hs, exists_expected he]; rfl⟩
  | s, _, .no hs he => by
    obtain ⟨lead, hlead, heq⟩ := exists_blank s
    exact ⟨lead, _, hlead, .no, by rw [heq, hs, exists_expected he]; rfl⟩
  | s, _, .string hs hx => by
    obtain ⟨lead, hlead, heq⟩ := exists_blank s
    obtain ⟨w, hw, ht⟩ := exists_stringText hx
    exact ⟨lead, _, hlead, .string hw, by rw [heq, hs, ht]; rfl⟩
  | s, _, .number hs hc hn => by
    obtain ⟨lead, hlead, heq⟩ := exists_blank s
    obtain ⟨w, hw, ht⟩ := exists_numberText hn
    exact ⟨lead, w, hlead, .number hw, by rw [heq, hs, ht]⟩
  | s, rest, .array hs hi => by
    obtain ⟨lead, hlead, heq⟩ := exists_blank s
    obtain ⟨before, pad, items, -, hfirst, hpad, hspaced, hsound, ht⟩ := hi.exists_items
    rw [hfirst rfl] at ht
    exact ⟨lead, _, hlead, .array hpad hspaced hsound, by rw [heq, hs, ht]; rfl⟩
  | s, rest, .object hs hm => by
    obtain ⟨lead, hlead, heq⟩ := exists_blank s
    obtain ⟨before, pad, members, -, hfirst, hpad, hspaced, hsound, ht⟩ := hm.exists_members
    rw [hfirst rfl] at ht
    exact ⟨lead, _, hlead, .object hpad hspaced hsound, by rw [heq, hs, ht]; rfl⟩

theorem PassesItems.exists_items : ∀ {first : Bool} {s rest : List Char}, PassesItems first s rest →
    ∃ before pad items, before.all isSpace ∧ (first = true → before = []) ∧ pad.all isSpace ∧ (∀ i ∈ items, i.Spaced) ∧
      (∀ i ∈ items, Sound i.core) ∧ s = before ++ (itemsText pad first items ++ rest)
  | first, s, _, .done hn => by
    obtain ⟨pad, hpad, heq⟩ := exists_blank s
    refine ⟨[], pad, [], rfl, fun _ => rfl, hpad, List.forall_mem_nil _, List.forall_mem_nil _, ?_⟩
    rw [nextItem_done_iff.1 hn] at heq
    rw [heq, itemsText, List.append_assoc]
    rfl
  | first, s, rest, .part hn hv hi => by
    obtain ⟨before, lead, hbefore, hfirst, hlead, heq⟩ := exists_of_nextItem hn
    obtain ⟨lead', core, hlead', hcore, ht⟩ := hv.exists_sound
    obtain ⟨tail, pad, items, htail, -, hpad, hspaced, hsound, hu⟩ := hi.exists_items
    have hall : (lead ++ lead').all isSpace := by
      rw [List.all_append, hlead, hlead']
      rfl
    refine ⟨before, pad, ⟨lead ++ lead', core, tail⟩ :: items, hbefore, hfirst, hpad,
      List.forall_mem_cons.2 ⟨⟨hall, htail⟩, hspaced⟩, List.forall_mem_cons.2 ⟨hcore, hsound⟩, ?_⟩
    rw [heq, ht, hu]
    simp [itemsText, Item.text]

theorem PassesMembers.exists_members : ∀ {first : Bool} {s rest : List Char}, PassesMembers first s rest →
    ∃ before pad members, before.all isSpace ∧ (first = true → before = []) ∧ pad.all isSpace ∧
      (∀ m ∈ members, m.Spaced) ∧ (∀ m ∈ members, Sound m.value.core) ∧ s = before ++ (membersText pad first members ++ rest)
  | first, s, _, .done hn => by
    obtain ⟨pad, hpad, heq⟩ := exists_blank s
    refine ⟨[], pad, [], rfl, fun _ => rfl, hpad, List.forall_mem_nil _, List.forall_mem_nil _, ?_⟩
    rw [nextMember_done_iff.1 hn] at heq
    rw [heq, membersText, List.append_assoc]
    rfl
  | first, s, rest, .part (u := u) hn hk hc hv hm => by
    obtain ⟨before, lead, hbefore, hfirst, hlead, heq⟩ := exists_of_nextMember hn
    obtain ⟨name, hname, ht⟩ := exists_stringText hk
    obtain ⟨gap, hgap, hu⟩ := exists_blank u
    rw [expectColon_eq_ok.1 hc] at hu
    obtain ⟨lead', core, hlead', hcore, hw⟩ := hv.exists_sound
    obtain ⟨tail, pad, members, htail, -, hpad, hspaced, hsound, hx⟩ := hm.exists_members
    refine ⟨before, pad, ⟨lead, name, gap, lead', core, tail⟩ :: members, hbefore, hfirst, hpad,
      List.forall_mem_cons.2 ⟨⟨hlead, hname, hgap, hlead', htail⟩, hspaced⟩,
      List.forall_mem_cons.2 ⟨hcore, hsound⟩, ?_⟩
    rw [heq, ht, hu, hw, hx]
    simp [membersText, Member.text, Item.text]
end

/-! ## What is left over -/

theorem Sound.skipValue_self {w : List Char} (h : Sound w) : skipValue w = .ok [] := by
  have hpasses := h.passes .nil
  rw [List.append_nil] at hpasses
  exact skipValue_eq_ok_iff.2 hpasses

/-- **What is well formed can be told by passing over it.** -/
theorem sound_iff {w : List Char} : Sound w ↔ skipSpace w = w ∧ skipValue w = .ok [] := by
  constructor
  · exact fun h => ⟨h.skipSpace_self, h.skipValue_self⟩
  · rintro ⟨hs, hv⟩
    obtain ⟨lead, core, hlead, hcore, heq⟩ := (skipValue_eq_ok_iff.1 hv).exists_sound
    have hw : w = core := by
      rw [heq, hcore.skipSpace_append hlead, ← heq, List.append_nil] at hs
      exact hs.symm
    exact hw ▸ hcore

theorem Passes.unique {s rest rest' : List Char} (h : Passes s rest) (h' : Passes s rest') : rest = rest' :=
  Except.ok.inj ((skipValue_eq_ok_iff.2 h).symm.trans (skipValue_eq_ok_iff.2 h'))

end Json
end SinkReporter
