import SinkReporter.Proofs.Json.Strict
import SinkReporter.Settings.Basic
/-!
# Proofs.Settings.RoundTrip — settings as JSON, written and read

What is written of settings is read back, either way.  An object from which settings are read has no members but the two,
and they tell the settings in the only way there is to write them: `null`, or a string, or the decimal digits of a number
of 64 bits (`Settings.membersTell`).
-/
namespace SinkReporter
namespace Settings

open Json (Form Spelled Tells)

/-! ## The record -/

theorem strict_record : record.Strict where
  field := by
    simp only [record, List.forall_mem_cons]
    and_intros
    · exact Json.Field.lawful_of Json.lawful_natural.optional fun _ _ => rfl
    · exact Json.Field.lawful_of Json.lawful_text.optional fun _ _ => rfl
    · exact fun _ h => by cases h
  pairwise := by
    refine List.pairwise_pair.2 ⟨?_, ?_⟩
    · exact Json.Field.apart_of (fun _ _ => rfl) fun _ _ _ => rfl
    · exact Json.Field.apart_of (fun _ _ => rfl) fun _ _ _ => rfl
  exact := rfl
  names := by decide
  spelled := by
    simp only [record, List.forall_mem_cons]
    and_intros
    · exact Json.Field.readsSpelled_of Json.readsSpelled_natural.optional
    · exact Json.Field.readsSpelled_of Json.readsSpelled_text.optional
    · exact fun _ h => by cases h

theorem lawful_form : form.Lawful := strict_record.form

/-! ## What is written -/

theorem take_timeout (secs : UInt64) :
    Form.natural.optional.take (.number (.integer secs.toNat)) = .ok (some secs) :=
  map_eq_ok.2 ⟨secs, Json.take_natural secs, rfl⟩

theorem take_document (s : Settings) : form.take s.document = .ok s := by
  obtain ⟨timeoutSecs, contextVar⟩ := s
  cases timeoutSecs with
  | none => cases contextVar <;> rfl
  | some secs =>
    cases contextVar with
    | none =>
      exact Json.Record.take_object.2
        ⟨_, foldlM_cons_eq_ok.2 ⟨_, Json.Record.takeMember_put rfl rfl (take_timeout secs), rfl⟩, rfl⟩
    | some name =>
      exact Json.Record.take_object.2
        ⟨_, foldlM_cons_eq_ok.2 ⟨_, Json.Record.takeMember_put rfl rfl (take_timeout secs),
          foldlM_cons_eq_ok.2 ⟨_, Json.Record.takeMember_put rfl rfl rfl, rfl⟩⟩, rfl⟩

theorem spells_members (s : Settings) {members : List (String × Json.Value)} (h : s.document = .object members) (depth : Nat) :
    ∀ m ∈ members, ∀ rest, Json.Ends rest → Json.Spells depth (Json.compactChars m.2 ++ rest) m.2 rest := by
  cases h
  refine List.forall_mem_append.2 ⟨?_, ?_⟩
  · cases s.timeoutSecs with
    | none => exact List.forall_mem_nil _
    | some secs => exact List.forall_mem_singleton.2 fun rest hrest => Json.spells_natural depth secs hrest
  · cases s.contextVar with
    | none => exact List.forall_mem_nil _
    | some name => exact List.forall_mem_singleton.2 fun rest _ => Json.spells_stringText depth name rest

theorem spelled_text (s : Settings) : Spelled s.text s.document := by
  refine ⟨[], ?_, rfl⟩
  rw [text, Json.Value.compact, String.toList_ofList, ← List.append_nil (Json.compactChars s.document)]
  exact .object (Json.skipSpace_of_not (by decide) _) (Json.spells_compactMembers (spells_members s rfl 126) true [])

/-- **What is written of settings is read back**, either way. -/
theorem read_text (s : Settings) : form.ofText s.text = .ok s ∧ form.ofParsedText s.text = .ok s :=
  lawful_form.read_spelled (spelled_text s) (take_document s)

/-- **What is not set is left out**, and nothing else is. -/
theorem topNames_text (s : Settings) : Json.topNames s.text.toList =
    (if s.timeoutSecs.isSome then ["timeout_secs"] else []) ++ if s.contextVar.isSome then ["context_var"] else [] := by
  obtain ⟨rest, hspells, -⟩ := spelled_text s
  rw [Json.topNames_of_spells hspells]
  obtain ⟨timeoutSecs, contextVar⟩ := s
  cases timeoutSecs <;> cases contextVar <;> rfl

/-! ## What is read -/

theorem findsOr_of_takeFrom {look : String → Option Json.Value} {s : Settings}
    (h : ∃ d, record.fields.foldlM (Json.Field.takeFrom look) record.blank = .ok d ∧ record.finish d = .ok s) :
    Form.natural.optional.FindsOr none (look "timeout_secs") s.timeoutSecs ∧
    Form.text.optional.FindsOr none (look "context_var") s.contextVar := by
  obtain ⟨x, hx, hrest⟩ := (Json.exists_takeFrom_cons (fun x => (⟨x, none⟩ : Draft)) rfl rfl fun _ => rfl).1 h
  obtain ⟨y, hy, hrest⟩ := (Json.exists_takeFrom_cons (fun y => (⟨x, y⟩ : Draft)) rfl rfl fun _ => rfl).1 hrest
  cases Json.exists_takeFrom_nil.1 hrest
  exact ⟨Form.finds_getD.1 ⟨x, hx, rfl⟩, Form.finds_getD.1 ⟨y, hy, rfl⟩⟩

theorem names_eq {name : String} (h : name ∈ record.names) : name = "timeout_secs" ∨ name = "context_var" := by
  simpa [Json.Record.names, record, Json.Field.of] using h

/-- **Members tell settings**: each gives one of the two names, and the last of each name tells its field. -/
structure MembersTell (members : List Json.Member) (s : Settings) : Prop where
  named : ∀ m ∈ members, m.Named "timeout_secs" ∨ m.Named "context_var"
  timeout : Tells Json.StandsForNatural "timeout_secs" members s.timeoutSecs
  contextVar : Tells Json.StandsForText "context_var" members s.contextVar

/-- **An object from which settings are read**, either way, has members that tell them, and no name twice when it is read
straight through. -/
theorem membersTell {text : String} {members : List Json.Member} {s : Settings} (hobject : Json.IsObject text members)
    (h : form.ofText text = .ok s ∨ form.ofParsedText text = .ok s) :
    MembersTell members s ∧
      (form.ofText text = .ok s → members.Pairwise fun m n => ∀ name, m.Named name → ¬ n.Named name) := by
  obtain ⟨t, hs⟩ := hobject.brace
  obtain ⟨depth, told, rfl, htop, hnames, hfound⟩ :=
    strict_record.exists_told hobject (h.elim (strict_record.parsed_of_ofText hs) id)
  obtain ⟨htimeout, hvariable⟩ := findsOr_of_takeFrom hfound
  refine ⟨⟨fun m hm => ?_, Json.tells_of_findsOr Json.writes_natural htimeout,
    Json.tells_of_findsOr Json.writes_text hvariable⟩, fun hread => ?_⟩
  · obtain ⟨t, ht, rfl⟩ := List.mem_map.1 hm
    rcases names_eq (hnames t ht) with hname | hname
    · exact .inl (hname ▸ t.named)
    · exact .inr (hname ▸ t.named)
  · have hnodup := strict_record.nodup_topNames (htop ▸ List.forall_mem_map.2 hnames) hread
    rw [htop] at hnodup
    refine List.pairwise_map.2 ((List.pairwise_map.1 hnodup).imp fun {t u} hne name ht hu => hne ?_)
    exact (t.named.unique ht).trans (hu.unique u.named)

theorem exists_members {text : String} {t : List Char} {s : Settings} (hs : Json.skipSpace text.toList = '\x7b' :: t)
    (h : form.ofText text = .ok s ∨ form.ofParsedText text = .ok s) : ∃ members, Json.IsObject text members :=
  Json.exists_isObject hs (h.elim (strict_record.parsed_of_ofText hs) id)

/-- **An object with any other name is refused.** -/
theorem exists_errors {text : String} {members : List Json.Member} {m : Json.Member} {name : String}
    (hobject : Json.IsObject text members) (hm : m ∈ members) (hname : m.Named name) (htimeout : name ≠ "timeout_secs")
    (hvariable : name ≠ "context_var") :
    (∃ e, form.ofText text = .error e) ∧ ∃ e, form.ofParsedText text = .error e := by
  have hnot : ∀ s, ¬ (form.ofText text = .ok s ∨ form.ofParsedText text = .ok s) := fun s h =>
    ((membersTell hobject h).1.named m hm).elim (fun hnamed => htimeout (hname.unique hnamed))
      fun hnamed => hvariable (hname.unique hnamed)
  exact ⟨exists_error fun s h => hnot s (.inl h), exists_error fun s h => hnot s (.inr h)⟩

/-- **Settings as JSON.**  What is written of settings is read back, straight through and by way of its value, and what is not
set is left out.  A text that opens as an object and from which settings are read, either way, is an object that has no
members but the two, none of them twice when it is read straight through; the last of each name decides, and a timeout is
`null` or the decimal digits of a number of 64 bits, with no sign, fraction or exponent.  What is written of these settings is
again read back.  An object that gives any other name is refused by both ways of reading, whatever stands under this name. -/
theorem strict_round_trip :
    (∀ s : Settings, form.ofText s.text = .ok s ∧ form.ofParsedText s.text = .ok s ∧
      Json.topNames s.text.toList =
        (if s.timeoutSecs.isSome then ["timeout_secs"] else []) ++ if s.contextVar.isSome then ["context_var"] else []) ∧
    (∀ text t s, Json.skipSpace text.toList = '\x7b' :: t →
      form.ofText text = .ok s ∨ form.ofParsedText text = .ok s →
      (∃ members, Json.IsObject text members) ∧
      (∀ members, Json.IsObject text members → MembersTell members s ∧
        (form.ofText text = .ok s → members.Pairwise fun m n => ∀ name, m.Named name → ¬ n.Named name)) ∧
      form.ofText s.text = .ok s ∧ form.ofParsedText s.text = .ok s) ∧
    ∀ text members m name, Json.IsObject text members → m ∈ members → m.Named name → name ≠ "timeout_secs" →
      name ≠ "context_var" → (∃ e, form.ofText text = .error e) ∧ ∃ e, form.ofParsedText text = .error e := by
  refine ⟨fun s => ?_, fun text t s hs h => ?_, fun text members m name => exists_errors⟩
  · obtain ⟨hread, hparsed⟩ := read_text s
    exact ⟨hread, hparsed, topNames_text s⟩
  · exact ⟨exists_members hs h, fun members hobject => membersTell hobject h, read_text s⟩

theorem strict_round_trip_other_name :
    let member : Json.Member := ⟨[], ['a', '"'], [], [], ['n', 'u', 'l', 'l'], []⟩
    Json.IsObject "\x7b\"a\":null\x7d" [member] ∧ member.Named "a" ∧
      (∃ e, form.ofText "\x7b\"a\":null\x7d" = .error e) ∧ ∃ e, form.ofParsedText "\x7b\"a\":null\x7d" = .error e := by
  intro member
  have hspaced : member.Spaced := ⟨rfl, .plain (by decide) (by decide) (by decide) .close, rfl, rfl, rfl⟩
  have hobject : Json.IsObject "\x7b\"a\":null\x7d" [member] :=
    ⟨[], [], [], rfl, rfl, ⟨rfl, List.forall_mem_singleton.2 hspaced, List.forall_mem_singleton.2 .null⟩, rfl⟩
  have hname : member.Named "a" := by rfl
  exact ⟨hobject, hname,
    strict_round_trip.2.2 _ _ member "a" hobject List.mem_cons_self hname (by decide) (by decide)⟩

end Settings
end SinkReporter
