import SinkReporter.Proofs.Record.TagList
import Mathlib.Data.List.Basic
/-!
# Proofs.Record.TagPairs — what is wrong with a list of tags

An item of such a list is a pair of strings, or it has just one flaw (`Tag.ofPair_eq_error`).  The flaw that is reported is
that of the first item that has one, under the index of this item (`Tag.ofPairs_eq_error`).
-/
namespace SinkReporter
namespace Tag

open Json (Value)

def IsPair (item : Value) : Prop := ∃ key value, item = .array [.string key, .string value]

theorem isPair_iff {item : Value} : IsPair item ↔ ∃ tag : Tag, item = tag.pair :=
  ⟨fun ⟨key, value, h⟩ => ⟨⟨key, value⟩, h⟩, fun ⟨tag, h⟩ => ⟨tag.key, tag.value, h⟩⟩

theorem isPair_pair (tag : Tag) : IsPair tag.pair := isPair_iff.2 ⟨tag, rfl⟩

theorem exists_ofPair_iff {index : Nat} {item : Value} : (∃ tag, ofPair index item = .ok tag) ↔ IsPair item :=
  (exists_congr fun _ => ofPair_eq_ok).trans isPair_iff.symm

/-- **What is wrong with an item** that stands at an index: it is no array, it is an array of fewer or more than two parts,
or it is one of two parts that are not both strings. -/
inductive Flaw (index : Nat) : Value → InvalidArgument → Prop where
  | noArray {item : Value} (h : ∀ parts, item ≠ .array parts) : Flaw index item (.tagNoPair index item)
  | length {parts : List Value} (h : parts.length ≠ 2) : Flaw index (.array parts) (.tagLength index parts.length)
  | noStrings {a b : Value} (h : ¬ ((∃ key, a = .string key) ∧ ∃ value, b = .string value)) :
    Flaw index (.array [a, b]) (.tagNoStrings index (.array [a, b]))

theorem Flaw.not_isPair {index : Nat} {item : Value} {cause : InvalidArgument} (h : Flaw index item cause) :
    ¬ IsPair item := by
  rintro ⟨key, value, rfl⟩
  cases h with
  | noArray h => exact h _ rfl
  | length h => exact h rfl
  | noStrings h => exact h ⟨⟨key, rfl⟩, value, rfl⟩

theorem Flaw.of_ofPair {index : Nat} {item : Value} {cause : InvalidArgument} (h : ofPair index item = .error cause) :
    Flaw index item cause := by
  unfold ofPair at h
  split at h
  · cases h
  · rename_i a b hne
    cases h
    exact .noStrings fun ⟨⟨key, ha⟩, value, hb⟩ => hne key value ha hb
  · rename_i parts _ hne
    cases h
    refine .length fun hlength => ?_
    obtain ⟨a, b, rfl⟩ := List.length_eq_two.1 hlength
    exact hne a b rfl
  · rename_i hne
    cases h
    exact .noArray hne

theorem Flaw.unique {index : Nat} {item : Value} {cause cause' : InvalidArgument} (h : Flaw index item cause)
    (h' : Flaw index item cause') : cause = cause' := by
  cases h with
  | noArray h =>
    cases h' with
    | noArray => rfl
    | length => exact absurd rfl (h _)
    | noStrings => exact absurd rfl (h _)
  | length h =>
    cases h' with
    | noArray h' => exact absurd rfl (h' _)
    | length => rfl
    | noStrings => exact absurd rfl h
  | noStrings h =>
    cases h' with
    | noArray h' => exact absurd rfl (h' _)
    | length h' => exact absurd rfl h'
    | noStrings => rfl

/-- **An item that is no pair of strings is refused for its flaw.** -/
theorem ofPair_eq_error {index : Nat} {item : Value} {cause : InvalidArgument} :
    ofPair index item = .error cause ↔ Flaw index item cause := by
  refine ⟨Flaw.of_ofPair, fun h => ?_⟩
  cases hpair : ofPair index item with
  | ok tag => exact absurd (exists_ofPair_iff.1 ⟨tag, hpair⟩) h.not_isPair
  | error cause' => rw [h.unique (.of_ofPair hpair)]

/-- **The first item that is no pair of strings is at fault**, however many others follow, and whatever is wrong with
them. -/
theorem ofPairs_eq_error {index : Nat} {items : List Value} {cause : InvalidArgument} :
    ofPairs index items = .error cause ↔
      ∃ good bad rest, items = good ++ bad :: rest ∧ (∀ item ∈ good, IsPair item) ∧ Flaw (index + good.length) bad cause := by
  induction items generalizing index with
  | nil => simp [ofPairs]
  | cons item items ih =>
    rw [ofPairs]
    cases hpair : ofPair index item with
    | error cause' =>
      constructor
      · rintro ⟨⟩
        exact ⟨[], item, items, rfl, (fun _ h => by cases h), ofPair_eq_error.1 hpair⟩
      · rintro ⟨good, bad, rest, hitems, hgood, hflaw⟩
        cases good with
        | nil =>
          cases hitems
          cases hpair.symm.trans (ofPair_eq_error.2 hflaw)
          rfl
        | cons =>
          cases hitems
          exact absurd (List.forall_mem_cons.1 hgood).1 (ofPair_eq_error.1 hpair).not_isPair
    | ok tag =>
      have hitem : IsPair item := exists_ofPair_iff.1 ⟨tag, hpair⟩
      have hmap : (ofPairs (index + 1) items).map (tag :: ·) = .error cause ↔ ofPairs (index + 1) items = .error cause := by
        cases ofPairs (index + 1) items <;> simp [Except.map]
      refine hmap.trans (ih.trans ⟨?_, ?_⟩)
      · rintro ⟨good, bad, rest, rfl, hgood, hflaw⟩
        refine ⟨item :: good, bad, rest, rfl, List.forall_mem_cons.2 ⟨hitem, hgood⟩, ?_⟩
        rwa [List.length_cons, Nat.add_comm good.length, ← Nat.add_assoc]
      · rintro ⟨good, bad, rest, hitems, hgood, hflaw⟩
        cases good with
        | nil =>
          cases hitems
          exact absurd hitem hflaw.not_isPair
        | cons _ good =>
          cases hitems
          refine ⟨good, bad, rest, rfl, (List.forall_mem_cons.1 hgood).2, ?_⟩
          rwa [Nat.add_assoc, Nat.add_comm 1]

theorem exists_ofPairs_iff {index : Nat} {items : List Value} :
    (∃ tags, ofPairs index items = .ok tags) ↔ ∀ item ∈ items, IsPair item := by
  constructor
  · rintro ⟨tags, h⟩ item hitem
    obtain ⟨tag, -, rfl⟩ := List.mem_map.1 (ofPairs_eq_ok.1 h ▸ hitem)
    exact isPair_pair tag
  · intro h
    cases hitems : ofPairs index items with
    | ok tags => exact ⟨tags, rfl⟩
    | error cause =>
      obtain ⟨good, bad, rest, rfl, -, hflaw⟩ := ofPairs_eq_error.1 hitems
      exact absurd (h bad (List.mem_append_right _ List.mem_cons_self)) hflaw.not_isPair

/-- **A list of tags among values.**  A value is taken just when it is an array of pairs of strings, and it then gives the
tags of these pairs, as many and in their order.  An array with something else in it is refused for the first such item,
under its index, and what is said of it is what is wrong with this item.  A value that is no array is no list. -/
theorem listOfValue_exact (v : Value) :
    ((∃ tags, listOfValue v = .ok tags) ↔ ∃ items, v = .array items ∧ ∀ item ∈ items, IsPair item) ∧
    (∀ tags, listOfValue v = .ok tags ↔ v = .array (tags.map fun tag => .array [.string tag.key, .string tag.value])) ∧
    (∀ items, v = .array items →
      (∀ tags, listOfValue v = .ok tags → tags.length = items.length) ∧
      ((∃ item ∈ items, ¬ IsPair item) → ∃ cause, listOfValue v = .error cause) ∧
      ∀ cause, listOfValue v = .error cause ↔
        ∃ good bad rest, items = good ++ bad :: rest ∧ (∀ item ∈ good, IsPair item) ∧ Flaw good.length bad cause) ∧
    ((∀ items, v ≠ .array items) → listOfValue v = .error (.tagsNoList v)) ∧
    (∀ i found, (InvalidArgument.tagNoPair i found).message =
      "Invalid argument: " ++ ("tag " ++ toString i ++ " must be a pair, got " ++ found.compact)) ∧
    (∀ i n, (InvalidArgument.tagLength i n).message =
      "Invalid argument: " ++ ("tag " ++ toString i ++ " must have exactly 2 elements, got " ++ toString n)) ∧
    (∀ i found, (InvalidArgument.tagNoStrings i found).message =
      "Invalid argument: " ++ ("tag " ++ toString i ++ " must contain two strings, got " ++ found.compact)) ∧
    ∀ found, (InvalidArgument.tagsNoList found).message =
      "Invalid argument: " ++ ("tags must be a list of pairs, got " ++ found.compact) := by
  refine ⟨⟨?_, ?_⟩, fun _ => listOfValue_eq_ok, ?_, ?_, fun _ _ => rfl, fun _ _ => rfl, fun _ _ => rfl,
    fun _ => rfl⟩
  · rintro ⟨tags, h⟩
    cases listOfValue_eq_ok.1 h
    exact ⟨_, rfl, exists_ofPairs_iff.1 ⟨tags, h⟩⟩
  · rintro ⟨items, rfl, h⟩
    exact exists_ofPairs_iff.2 h
  · rintro items rfl
    refine ⟨fun tags h => ?_, fun ⟨item, hmem, hitem⟩ => ?_, fun cause => ?_⟩
    · rw [ofPairs_eq_ok.1 h, List.length_map]
    · exact exists_error fun tags h => hitem (exists_ofPairs_iff.1 ⟨tags, h⟩ item hmem)
    · rw [listOfValue, ofPairs_eq_error]
      simp only [Nat.zero_add]
  · intro h
    cases v with
    | array items => exact absurd rfl (h items)
    | _ => rfl

end Tag
end SinkReporter
