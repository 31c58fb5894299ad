import SinkReporter.Proofs.Json.Fields
import SinkReporter.Proofs.Json.Layout
/-!
# Proofs.Json.Ending — where a text that holds a container ends

A container ends with its last bracket, whatever follows.  So nothing well formed stands at the start of a text that was cut
before that bracket (`HoldsContainer.blank_of_passes`), and of two texts that hold containers neither goes on where the other
ends (`HoldsContainer.blank_of_append`).
-/
namespace SinkReporter
namespace Json

inductive Container : List Char → Prop where
  | array {pad items} : SoundItems pad items → Container (arrayText pad items)
  | object {pad members} : SoundMembers pad members → Container (objectText pad members)

/-- **A text that holds a container**, and nothing but white space around it. -/
def HoldsContainer (text : String) : Prop :=
  ∃ lead w tail, lead.all isSpace ∧ tail.all isSpace ∧ Container w ∧ text.toList = lead ++ (w ++ tail)

variable {w w' lead lead' rest rest' : List Char}

theorem Container.sound (h : Container w) : Sound w := by
  cases h with
  | array hi => exact hi.text
  | object hm => exact hm.text

theorem container_iff : Container w ↔ Sound w ∧ ∃ c t, w = c :: t ∧ (c = '[' ∨ c = '\x7b') := by
  constructor
  · intro h
    refine ⟨h.sound, ?_⟩
    cases h with
    | array => exact ⟨'[', _, rfl, .inl rfl⟩
    | object => exact ⟨'\x7b', _, rfl, .inr rfl⟩
  · rintro ⟨hw, c, t, rfl, rfl | rfl⟩
    · obtain ⟨pad, items, hi, rfl⟩ := hw.of_bracket
      exact .array hi
    · obtain ⟨pad, members, hm, rfl⟩ := hw.of_brace
      exact .object hm

theorem Container.passes (h : Container w) (hlead : lead.all isSpace) (rest : List Char) :
    Passes (lead ++ (w ++ rest)) rest := by
  refine Passes.of_skipSpace ?_
  rw [h.sound.skipSpace_append hlead]
  cases h with
  | array hi => exact .array (skipSpace_of_not (by decide) _) (hi.passes (fun i hm {_} => (hi.sound i hm).passes) rest)
  | object hm => exact .object (skipSpace_of_not (by decide) _) (hm.passes (fun m hi {_} => (hm.sound m hi).passes) rest)

theorem Container.rest_unique (h : Container w) (h' : Container w') (hlead : lead.all isSpace) (hlead' : lead'.all isSpace)
    (heq : lead ++ (w ++ rest) = lead' ++ (w' ++ rest')) : rest = rest' := by
  have hpasses := h.passes hlead rest
  rw [heq] at hpasses
  exact hpasses.unique (h'.passes hlead' rest')

/-- What stands before other characters in a text that holds a container is a container itself, if it is well formed. -/
theorem Container.of_append (h : Container w) (hw' : Sound w') (hlead : lead.all isSpace) (hlead' : lead'.all isSpace)
    (heq : lead ++ (w ++ rest) = lead' ++ (w' ++ rest')) : Container w' := by
  have hstart : w ++ rest = w' ++ rest' := by
    have := congrArg skipSpace heq
    rwa [h.sound.skipSpace_append hlead, hw'.skipSpace_append hlead'] at this
  obtain ⟨-, c, t, rfl, hc⟩ := container_iff.1 h
  obtain ⟨d, u, rfl, -⟩ := hw'.head
  have hd : c = d := (List.cons.inj hstart).1
  exact container_iff.2 ⟨hw', d, u, rfl, hd ▸ hc⟩

theorem exists_itemsText_eq (pad : List Char) (first : Bool) (items : List Item) :
    ∃ u, itemsText pad first items = u ++ [']'] := by
  induction items generalizing first with
  | nil => exact ⟨pad, rfl⟩
  | cons i items ih =>
    obtain ⟨u, hu⟩ := ih false
    exact ⟨separator first ++ (i.text ++ u), by rw [itemsText, hu, List.append_assoc, List.append_assoc]⟩

theorem exists_membersText_eq (pad : List Char) (first : Bool) (members : List Member) :
    ∃ u, membersText pad first members = u ++ ['\x7d'] := by
  induction members generalizing first with
  | nil => exact ⟨pad, rfl⟩
  | cons m members ih =>
    obtain ⟨u, hu⟩ := ih false
    exact ⟨separator first ++ (m.text ++ u), by rw [membersText, hu, List.append_assoc, List.append_assoc]⟩

theorem Container.last (h : Container w) : ∃ u c, w = u ++ [c] ∧ isSpace c = false := by
  cases h with
  | array =>
    obtain ⟨u, hu⟩ := exists_itemsText_eq _ true _
    exact ⟨'[' :: u, ']', by rw [arrayText, hu, List.cons_append], by decide⟩
  | object =>
    obtain ⟨u, hu⟩ := exists_membersText_eq _ true _
    exact ⟨'\x7b' :: u, '\x7d', by rw [objectText, hu, List.cons_append], by decide⟩

/-! ## Whole texts -/

variable {text more blank : String}

/-- **Nothing well formed stands at the start of a text that was cut** inside the container that it holds. -/
theorem HoldsContainer.blank_of_passes (h : HoldsContainer (text ++ more)) {r : List Char} (hp : Passes text.toList r) :
    more.toList.all isSpace := by
  obtain ⟨lead, w, tail, hlead, htail, hw, htext⟩ := h
  obtain ⟨lead', w', hlead', hw', hcut⟩ := hp.exists_sound
  have heq : lead ++ (w ++ tail) = lead' ++ (w' ++ (r ++ more.toList)) := by
    rw [← htext, String.toList_append, hcut, List.append_assoc, List.append_assoc]
  have hrest : tail = r ++ more.toList := hw.rest_unique (hw.of_append hw' hlead hlead' heq) hlead hlead' heq
  rw [hrest, List.all_append, Bool.and_eq_true] at htail
  exact htail.2

theorem HoldsContainer.passes (h : HoldsContainer text) : ∃ r, Passes text.toList r := by
  obtain ⟨lead, w, tail, hlead, -, hw, htext⟩ := h
  exact ⟨tail, htext ▸ hw.passes hlead tail⟩

theorem HoldsContainer.of_append_blank (hblank : blank.toList.all isSpace) (h : HoldsContainer (text ++ blank)) :
    HoldsContainer text := by
  obtain ⟨lead, w, tail, hlead, htail, hw, htext⟩ := h
  rw [String.toList_append, ← List.append_assoc] at htext
  rcases List.append_eq_append_iff.1 htext with ⟨x, hx, hblankeq⟩ | ⟨x, hx, htaileq⟩
  · -- white space cannot reach into the container, which ends with a bracket
    obtain ⟨u, c, rfl, hc⟩ := hw.last
    rcases List.eq_nil_or_concat x with rfl | ⟨y, d, rfl⟩
    · rw [List.append_nil] at hx
      exact ⟨lead, u ++ [c], [], hlead, rfl, hw, by rw [List.append_nil, hx]⟩
    · rw [List.concat_eq_append, ← List.append_assoc, ← List.append_assoc] at hx
      obtain ⟨-, hcd⟩ := List.append_inj' hx rfl
      cases hcd
      rw [hblankeq, List.concat_eq_append, List.all_append, List.all_append] at hblank
      simp [hc] at hblank
  · rw [htaileq, List.all_append, Bool.and_eq_true] at htail
    exact ⟨lead, w, x, hlead, htail.1, hw, by rw [hx, List.append_assoc]⟩

/-- **A text that holds a container does not go on where another ends**, except for white space. -/
theorem HoldsContainer.blank_of_append (h : HoldsContainer (text ++ blank)) (hblank : blank.toList.all isSpace)
    (hmore : HoldsContainer (text ++ more)) : more.toList.all isSpace := by
  obtain ⟨r, hr⟩ := (h.of_append_blank hblank).passes
  exact hmore.blank_of_passes hr

/-! ## Forms that are read of containers -/

variable {α β : Type} {form : Form α} {a : α}

/-- Whatever the form reads starts with a bracket or a brace. -/
def Form.OfContainer (form : Form α) : Prop :=
  ∀ s a r, form.read s = .ok (a, r) → ∃ c t, skipSpace s = c :: t ∧ (c = '[' ∨ c = '\x7b')

theorem Record.ofContainer {ρ : Type} (record : Record ρ α) : record.form.OfContainer := by
  intro s a r h
  rcases Record.read_form.1 h with ⟨t, -, hs, -⟩ | ⟨t, -, hs, -⟩
  · exact ⟨'[', t, hs, .inl rfl⟩
  · exact ⟨'\x7b', t, hs, .inr rfl⟩

theorem Form.OfContainer.checked (h : form.OfContainer) (check : α → Except Misfit β) :
    (form.checked check).OfContainer := by
  intro s b r hb
  obtain ⟨a, ha, -⟩ := checked_read.1 hb
  exact h s a r ha

theorem Form.Lawful.holdsContainer (h : form.Lawful) (hc : form.OfContainer) (ha : form.ofText text = .ok a) :
    HoldsContainer text := by
  obtain ⟨rest, hread, hrest⟩ := ofText_eq_ok.1 ha
  obtain ⟨lead, w, hlead, hw, htext⟩ := (h.passes hread).exists_sound
  obtain ⟨c, t, hs, hbracket⟩ := hc _ _ _ hread
  obtain ⟨d, u, rfl, -⟩ := hw.head
  rw [htext, hw.skipSpace_append hlead] at hs
  have hd : d = c := (List.cons.inj hs).1
  have htail : rest.all isSpace := by
    obtain ⟨blank, hblank, heq⟩ := exists_blank rest
    rw [hrest, List.append_nil] at heq
    rwa [heq]
  exact ⟨lead, _, rest, hlead, htail, container_iff.2 ⟨hw, d, u, rfl, hd ▸ hbracket⟩, htext⟩

/-- A text from the start of which nothing well formed can be read is no data, by either way. -/
theorem Form.Lawful.exists_error (h : form.Lawful) (hp : ∀ r, ¬ Passes text.toList r) :
    ∃ e, form.ofText text = .error e := by
  refine SinkReporter.exists_error fun a ha => ?_
  obtain ⟨rest, hread, -⟩ := ofText_eq_ok.1 ha
  exact hp rest (h.passes hread)

theorem exists_parse_error (hp : ∀ r, ¬ Passes text.toList r) : ∃ e, parse text = .error e := by
  refine exists_error fun v hv => ?_
  obtain ⟨tree, ⟨rest, htree, -⟩, -⟩ := parse_eq_ok_iff.1 hv
  exact hp rest htree.passes

end Json
end SinkReporter
