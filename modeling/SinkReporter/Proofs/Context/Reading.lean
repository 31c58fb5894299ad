import SinkReporter.Context
import SinkReporter.Proofs.Json.Lookup
/-!
# Proofs.Context.Reading — which context files hold an endpoint

Of a text that is a value without repeated names it is told by the value alone whether it leads to an endpoint
(`Context.ofText_leads_iff`): the section has to be there, and in it an address and a token, both as strings.  Section and
file may each be written as an array instead of an object.
-/
namespace SinkReporter

open Json (Value Form Field Distinct)

theorem Json.take_optionalText {v : Value} {x : String} : Form.text.optional.take v = .ok (some x) ↔ v = .string x := by
  cases v <;> simp [Form.optional, Form.text, Except.map]

/-! ## The section -/

/-- A value with the address and the token of an endpoint: under their names, or as an array of the two. -/
def Endpoint.IsHeldBy (e : Endpoint) : Value → Prop
  | .object members => ("address", .string e.address) ∈ members ∧ ("auth_token", .string e.authToken) ∈ members
  | .array items => items = [.string e.address, .string e.authToken]
  | _ => False

namespace SinkSection

theorem lawful_record : record.Lawful where
  field := by
    simp only [record, List.forall_mem_cons]
    and_intros
    · exact Field.lawful_of Json.lawful_text.optional fun _ _ => rfl
    · exact Field.lawful_of Json.lawful_text.optional fun _ _ => rfl
    · exact fun _ h => by cases h
  pairwise := by
    refine List.pairwise_pair.2 ⟨?_, ?_⟩
    · exact Field.apart_of (fun _ _ => rfl) fun _ _ _ => rfl
    · exact Field.apart_of (fun _ _ => rfl) fun _ _ _ => rfl

theorem take_object {members : List (String × Value)} (hn : (members.map (·.1)).Nodup) {a t : String} :
    form.take (.object members) = .ok ⟨some a, some t⟩ ↔
      ("address", .string a) ∈ members ∧ ("auth_token", .string t) ∈ members := by
  rw [← Json.lookup_eq_some_iff hn, ← Json.lookup_eq_some_iff hn, form, lawful_record.take_object_iff rfl (by decide) hn]
  constructor
  · rintro ⟨d, hd, hfinish⟩
    obtain ⟨d₁, h₁, hd⟩ := foldlM_cons_eq_ok.1 hd
    obtain ⟨d₂, h₂, hd⟩ := foldlM_cons_eq_ok.1 hd
    cases hd
    rcases (Json.takeFrom_eq_ok rfl).1 h₁ with ⟨-, rfl⟩ | ⟨v, x, hv, hx, rfl⟩
    · rcases (Json.takeFrom_eq_ok rfl).1 h₂ with ⟨-, rfl⟩ | ⟨w, y, hw, hy, rfl⟩
      · cases hfinish
      · cases hfinish
    · rcases (Json.takeFrom_eq_ok rfl).1 h₂ with ⟨-, rfl⟩ | ⟨w, y, hw, hy, rfl⟩
      · cases hfinish
      · cases hfinish
        exact ⟨Json.take_optionalText.1 hx ▸ hv, Json.take_optionalText.1 hy ▸ hw⟩
  · rintro ⟨ha, ht⟩
    refine ⟨⟨some (some a), some (some t)⟩, foldlM_cons_eq_ok.2 ⟨⟨some (some a), none⟩, ?_, ?_⟩, rfl⟩
    · exact (Json.takeFrom_eq_ok rfl).2 (.inr ⟨_, some a, ha, rfl, rfl⟩)
    · refine foldlM_cons_eq_ok.2 ⟨⟨some (some a), some (some t)⟩, ?_, rfl⟩
      exact (Json.takeFrom_eq_ok rfl).2 (.inr ⟨_, some t, ht, rfl, rfl⟩)

theorem take_array {items : List Value} {a t : String} :
    form.take (.array items) = .ok ⟨some a, some t⟩ ↔ items = [.string a, .string t] := by
  rw [form, Json.Record.take_array]
  constructor
  · rintro ⟨d, hd, hfinish⟩
    match items with
    | [] =>
      cases hd
      cases hfinish
    | [v] =>
      -- an array of one item says nothing of the token
      obtain ⟨d₁, h₁, hd⟩ := Json.takeItems_cons_eq_ok.1 hd
      obtain ⟨x, -, rfl⟩ := map_eq_ok.1 h₁
      cases hd
      cases hfinish
    | v :: w :: rest =>
      obtain ⟨d₁, h₁, hd⟩ := Json.takeItems_cons_eq_ok.1 hd
      obtain ⟨d₂, h₂, hd⟩ := Json.takeItems_cons_eq_ok.1 hd
      obtain ⟨x, hx, rfl⟩ := map_eq_ok.1 h₁
      obtain ⟨y, hy, rfl⟩ := map_eq_ok.1 h₂
      cases hd
      cases hfinish
      rw [Json.take_optionalText.1 hx, Json.take_optionalText.1 hy]
  · rintro rfl
    exact ⟨_, rfl, rfl⟩

/-- **A section is complete when its value holds the endpoint.** -/
theorem take_iff {v : Value} (hd : Distinct v) {e : Endpoint} :
    form.take v = .ok ⟨some e.address, some e.authToken⟩ ↔ e.IsHeldBy v := by
  cases hd with
  | array => exact take_array
  | object hn => exact take_object hn
  | _ => exact ⟨(fun h => by cases h), (fun h => h.elim)⟩

end SinkSection

/-! ## The file -/

/-- A value with a section that holds an endpoint: under its name, or as the only item of an array. -/
def Endpoint.IsFoundIn (e : Endpoint) : Value → Prop
  | .object members => ∃ sink, ("result_sink", sink) ∈ members ∧ e.IsHeldBy sink
  | .array items => ∃ sink, items = [sink] ∧ e.IsHeldBy sink
  | _ => False

namespace Context

/-- **A context leads to an endpoint**: it has the section, with an address that is not empty and a token. -/
def Leads (c : Context) (e : Endpoint) : Prop :=
  ∃ sink, c.resultSink = some sink ∧ sink.address = some e.address ∧ e.address ≠ "" ∧ sink.authToken = some e.authToken

theorem leads_iff {c : Context} {e : Endpoint} :
    c.Leads e ↔ e.address ≠ "" ∧ c.resultSink = some ⟨some e.address, some e.authToken⟩ := by
  constructor
  · rintro ⟨⟨address, token⟩, hsink, haddress, hne, htoken⟩
    dsimp only at haddress htoken
    rw [hsink, haddress, htoken]
    exact ⟨hne, rfl⟩
  · rintro ⟨hne, hsink⟩
    exact ⟨_, hsink, rfl, hne, rfl⟩

theorem lawful_record : record.Lawful where
  field := List.forall_mem_singleton.2 (Field.lawful_of SinkSection.lawful_record.form.optional fun _ _ => rfl)
  pairwise := List.pairwise_singleton _ _

theorem lawful_form : form.Lawful := lawful_record.form

theorem take_optionalSection {v : Value} (hd : Distinct v) {e : Endpoint} :
    SinkSection.form.optional.take v = .ok (some ⟨some e.address, some e.authToken⟩) ↔ e.IsHeldBy v := by
  by_cases hv : v = .null
  · subst hv
    exact ⟨(fun h => by cases h), (fun h => h.elim)⟩
  · rw [Json.optional_take hv, ← SinkSection.take_iff hd]
    simp

theorem take_object {members : List (String × Value)} (hn : (members.map (·.1)).Nodup)
    (hd : ∀ m ∈ members, Distinct m.2) {e : Endpoint} :
    form.take (.object members) = .ok ⟨some ⟨some e.address, some e.authToken⟩⟩ ↔
      ∃ sink, ("result_sink", sink) ∈ members ∧ e.IsHeldBy sink := by
  rw [form, lawful_record.take_object_iff rfl (by decide) hn]
  constructor
  · rintro ⟨d, hfields, hfinish⟩
    obtain ⟨d₁, h₁, hrest⟩ := foldlM_cons_eq_ok.1 hfields
    cases hrest
    rcases (Json.takeFrom_eq_ok rfl).1 h₁ with ⟨-, rfl⟩ | ⟨sink, x, hsink, hx, rfl⟩
    · cases hfinish
    · cases hfinish
      have hmem := (Json.lookup_eq_some_iff hn).1 hsink
      exact ⟨sink, hmem, (take_optionalSection (hd _ hmem)).1 hx⟩
  · rintro ⟨sink, hmem, hheld⟩
    have hsink := (Json.lookup_eq_some_iff hn).2 hmem
    have hx := (take_optionalSection (hd _ hmem)).2 hheld
    exact ⟨_, foldlM_cons_eq_ok.2 ⟨_, (Json.takeFrom_eq_ok rfl).2 (.inr ⟨sink, _, hsink, hx, rfl⟩), rfl⟩, rfl⟩

theorem take_array {items : List Value} (hd : ∀ v ∈ items, Distinct v) {e : Endpoint} :
    form.take (.array items) = .ok ⟨some ⟨some e.address, some e.authToken⟩⟩ ↔
      ∃ sink, items = [sink] ∧ e.IsHeldBy sink := by
  rw [form, Json.Record.take_array]
  constructor
  · rintro ⟨d, hitems, hfinish⟩
    match items with
    | [] =>
      cases hitems
      cases hfinish
    | v :: rest =>
      obtain ⟨d₁, h₁, hrest⟩ := Json.takeItems_cons_eq_ok.1 hitems
      obtain ⟨x, hx, rfl⟩ := map_eq_ok.1 h₁
      cases hrest
      cases hfinish
      exact ⟨v, rfl, (take_optionalSection (hd v List.mem_cons_self)).1 hx⟩
  · rintro ⟨sink, rfl, hheld⟩
    have hx := (take_optionalSection (hd sink List.mem_cons_self)).2 hheld
    exact ⟨_, Json.takeItems_cons_eq_ok.2 ⟨_, map_eq_ok.2 ⟨_, hx, rfl⟩, rfl⟩, rfl⟩

/-- **What is taken from a value leads to an endpoint when the endpoint is found in the value.** -/
theorem take_leads_iff {v : Value} (hd : Distinct v) {e : Endpoint} :
    (∃ c, form.take v = .ok c ∧ c.Leads e) ↔ e.address ≠ "" ∧ e.IsFoundIn v := by
  have hcontext : (∃ c, form.take v = .ok c ∧ c.Leads e) ↔
      e.address ≠ "" ∧ form.take v = .ok ⟨some ⟨some e.address, some e.authToken⟩⟩ := by
    constructor
    · rintro ⟨⟨sink⟩, htake, hleads⟩
      obtain ⟨hne, rfl⟩ := leads_iff.1 hleads
      exact ⟨hne, htake⟩
    · rintro ⟨hne, htake⟩
      exact ⟨_, htake, leads_iff.2 ⟨hne, rfl⟩⟩
  rw [hcontext]
  refine and_congr_right fun _ => ?_
  cases hd with
  | array hd => exact take_array hd
  | object hn hd => exact take_object hn hd
  | _ => exact ⟨(fun h => by cases h), (fun h => h.elim)⟩

/-- **The value of a text tells whether the text leads to an endpoint**, if no name is repeated in it. -/
theorem ofText_leads_iff {text : String} {v : Value} (hv : Json.parse text = .ok v) (hr : Json.NoRepeats text)
    {e : Endpoint} : (∃ c, form.ofText text = .ok c ∧ c.Leads e) ↔ e.address ≠ "" ∧ e.IsFoundIn v := by
  obtain ⟨tree, htree, hd⟩ := hr
  obtain rfl : tree.canonical = v := by
    have hparsed := Json.parse_eq_ok_iff.2 ⟨tree, htree, rfl⟩
    rw [hv] at hparsed
    exact (Except.ok.inj hparsed).symm
  rw [← take_leads_iff (Json.distinct_canonical tree)]
  refine exists_congr fun c => and_congr_left fun _ => ?_
  rw [lawful_form.ofText_iff htree, lawful_form.take_canonical hd]

end Context
end SinkReporter
