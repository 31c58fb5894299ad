import SinkReporter.Proofs.Json.Written
import SinkReporter.Record.Tag
/-!
# Proofs.Record.TagList — where tags come from

A text is a tag when it has an equals sign, and the first one cuts it (`Tag.ofText_eq_ok`).  A value is a list of tags when
it is an array of pairs of strings (`Tag.listOfValue_eq_ok`), of which the first that is no such pair is at fault
(`Tag.errorOf_listOfValue`).  What is written of tags, either way, is read as these tags.
-/
namespace SinkReporter
namespace Tag

open Json (Value)

/-! ## Texts -/

def text (tag : Tag) : String := tag.key ++ "=" ++ tag.value

theorem toList_text (tag : Tag) : tag.text.toList = tag.key.toList ++ '=' :: tag.value.toList := by
  rw [text, String.toList_append, String.toList_append, List.append_assoc]
  rfl

theorem splitAtEquals_eq_some {cs key value : List Char} :
    splitAtEquals cs = some (key, value) ↔ cs = key ++ '=' :: value ∧ '=' ∉ key := by
  induction cs generalizing key with
  | nil => simp [splitAtEquals]
  | cons c cs ih =>
    rw [splitAtEquals]
    split
    · rename_i hc
      subst hc
      cases key with
      | nil => simp [eq_comm]
      | cons k key =>
        simp only [Option.some.injEq, Prod.mk.injEq, reduceCtorEq, false_and, List.cons_append, List.cons.injEq,
          List.mem_cons, not_or, false_iff, not_and, and_imp]
        rintro rfl - hne
        exact absurd rfl hne
    · rename_i hc
      cases key with
      | nil => simp [hc]
      | cons k key =>
        rw [Option.map_eq_some_iff]
        constructor
        · rintro ⟨⟨key', value'⟩, hsplit, heq⟩
          cases heq
          obtain ⟨rfl, hnot⟩ := ih.1 hsplit
          exact ⟨rfl, List.not_mem_cons_of_ne_of_not_mem (Ne.symm hc) hnot⟩
        · rintro ⟨heq, hnot⟩
          cases heq
          exact ⟨(key, value), ih.2 ⟨rfl, List.not_mem_of_not_mem_cons hnot⟩, rfl⟩

theorem splitAtEquals_eq_none {cs : List Char} : splitAtEquals cs = none ↔ '=' ∉ cs := by
  induction cs with
  | nil => simp [splitAtEquals]
  | cons c cs ih =>
    rw [splitAtEquals]
    split
    · rename_i hc
      simp [hc]
    · rename_i hc
      rw [Option.map_eq_none_iff, ih, List.mem_cons, not_or]
      exact (and_iff_right (Ne.symm hc)).symm

/-- **A text is a tag** just when it is written so, no equals sign being part of the key. -/
theorem ofText_eq_ok {s : String} {tag : Tag} : ofText s = .ok tag ↔ s = tag.text ∧ '=' ∉ tag.key.toList := by
  rw [← String.toList_inj, toList_text, ← splitAtEquals_eq_some, ofText]
  cases h : splitAtEquals s.toList with
  | none => simp
  | some parts =>
    obtain ⟨key, value⟩ := parts
    obtain ⟨k, v⟩ := tag
    simp [← String.toList_inj]

theorem errorOf_ofText (s : String) :
    errorOf (ofText s) = if '=' ∈ s.toList then none else some (.tagWithoutEquals s) := by
  rw [ofText]
  cases h : splitAtEquals s.toList with
  | none => rw [if_neg (splitAtEquals_eq_none.1 h)]; rfl
  | some parts =>
    have hmem : '=' ∈ s.toList := Decidable.byContradiction fun hnot => by
      rw [splitAtEquals_eq_none.2 hnot] at h
      cases h
    rw [if_pos hmem]
    rfl

/-! ## Values -/

def pair (tag : Tag) : Value := .array [.string tag.key, .string tag.value]

theorem ofPair_eq_ok {index : Nat} {v : Value} {tag : Tag} : ofPair index v = .ok tag ↔ v = tag.pair := by
  constructor
  · intro h
    unfold ofPair at h
    split at h
    · cases h
      rfl
    · cases h
    · cases h
    · cases h
  · rintro rfl
    rfl

theorem ofPairs_eq_ok {index : Nat} {items : List Value} {tags : List Tag} :
    ofPairs index items = .ok tags ↔ items = tags.map pair := by
  induction items generalizing index tags with
  | nil => cases tags <;> simp [ofPairs]
  | cons v items ih =>
    rw [ofPairs]
    constructor
    · intro h
      split at h
      · cases h
      rename_i tag htag
      obtain ⟨rest, hrest, rfl⟩ := map_eq_ok.1 h
      rw [ofPair_eq_ok.1 htag, ih.1 hrest, List.map_cons]
    · intro h
      cases tags with
      | nil => cases h
      | cons tag rest =>
        rw [List.map_cons, List.cons.injEq] at h
        rw [ofPair_eq_ok.2 h.1]
        exact map_eq_ok.2 ⟨rest, ih.2 h.2, rfl⟩

/-- **A value is a list of tags** just when it is an array of their pairs. -/
theorem listOfValue_eq_ok {v : Value} {tags : List Tag} : listOfValue v = .ok tags ↔ v = .array (tags.map pair) := by
  cases v with
  | array items =>
    rw [listOfValue, ofPairs_eq_ok, Value.array.injEq]
  | _ => simp [listOfValue]

theorem errorOf_ofPairs (index : Nat) (items : List Value) :
    errorOf (ofPairs index items) = (items.zipIdx index).findSome? fun item => errorOf (ofPair item.2 item.1) := by
  induction items generalizing index with
  | nil => rfl
  | cons v items ih =>
    rw [ofPairs, List.zipIdx_cons, List.findSome?_cons]
    cases ofPair index v with
    | error cause => rfl
    | ok tag =>
      rw [errorOf_ok]
      exact (errorOf_map _ _).trans (ih (index + 1))

/-- **The first item that is no pair of strings is at fault.** -/
theorem errorOf_listOfValue (items : List Value) :
    errorOf (listOfValue (.array items)) = items.zipIdx.findSome? fun item => errorOf (ofPair item.2 item.1) :=
  errorOf_ofPairs 0 items

/-! ## Texts of values -/

def pairsText (tags : List Tag) : String := (Value.array (tags.map pair)).compact

theorem plain_pairs (tags : List Tag) : Json.Plain 2 (.array (tags.map pair)) := by
  refine .array fun v hv => ?_
  obtain ⟨tag, -, rfl⟩ := List.mem_map.1 hv
  exact .array (List.forall_mem_cons.2 ⟨.string _, List.forall_mem_singleton.2 (.string _)⟩)

theorem canonical_pairs (tags : List Tag) : (Value.array (tags.map pair)).canonical = .array (tags.map pair) := by
  rw [Value.canonical, Json.canonicalItems_eq_map, List.map_map]
  rfl

/-- **What is written of tags is read as their pairs.** -/
theorem parse_pairsText (tags : List Tag) : Json.parse (pairsText tags) = .ok (.array (tags.map pair)) :=
  Json.parse_eq_ok_iff.2 ⟨_, Json.spelled_compact ((plain_pairs tags).mono (by decide)), canonical_pairs tags⟩

theorem listOfJson_eq_ok {s : String} {tags : List Tag} :
    listOfJson s = .ok tags ↔ Json.parse s = .ok (.array (tags.map pair)) := by
  unfold listOfJson
  cases Json.parse s with
  | error fault => simp
  | ok v =>
    dsimp only
    rw [mapError_eq_ok, listOfValue_eq_ok, Except.ok.injEq]

end Tag
end SinkReporter
