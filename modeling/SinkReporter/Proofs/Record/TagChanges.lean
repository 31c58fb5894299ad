import SinkReporter.Proofs.Record.TagPairs
import Mathlib.Algebra.GroupWithZero.Nat
/-!
# Proofs.Record.TagChanges — what a list of tags holds after changes to it

A change clears the list, adds tags behind those that are there (`TagChange.Adds`), or is refused
(`TagChange.apply_eq_ok`, `TagChange.apply_eq_error`).  After any number of changes the list is what those since the last
time it was cleared have added, one behind the other (`TagChange.run_appended`).
-/
namespace SinkReporter
namespace Tag

theorem ofText_eq_error {text : String} {cause : InvalidArgument} :
    ofText text = .error cause ↔ '=' ∉ text.toList ∧ cause = .tagWithoutEquals text := by
  rw [← errorOf_eq_some, errorOf_ofText]
  split <;> simp [*, eq_comm]

theorem listOfValue_eq_error {v : Json.Value} {cause : InvalidArgument} :
    listOfValue v = .error cause ↔
      ((∀ items, v ≠ .array items) ∧ cause = .tagsNoList v) ∨
      ∃ good bad rest, v = .array (good ++ bad :: rest) ∧ (∀ item ∈ good, IsPair item) ∧ Flaw good.length bad cause := by
  cases v with
  | array items =>
    rw [listOfValue, ofPairs_eq_error]
    simp
  | _ => simp [listOfValue, eq_comm]

end Tag

namespace TagChange

def run (changes : List TagChange) : List Tag := changes.foldl after []

/-! ## One change -/

/-- **What a change adds** to a list of tags. -/
inductive Adds (tags : List Tag) : TagChange → List Tag → Prop where
  | push (tag : Tag) : Adds tags (.push tag) [tag]
  | pushText {tag : Tag} (h : '=' ∉ tag.key.toList) : Adds tags (.pushText tag.text) [tag]
  | extend (more : List Tag) : Adds tags (.extend more) more
  | extendJson {text : String} {more : List Tag} (h : Json.parse text = .ok (.array (more.map Tag.pair))) :
    Adds tags (.extendJson text) more
  | extendSelf : Adds tags .extendSelf tags

/-- **Why a change is refused**, whatever the list is: a text has no equals sign, or it is no JSON, or no list, or a list
in which something else stands behind any number of pairs of strings. -/
inductive Refused : TagChange → TagFault → Prop where
  | noEquals {text : String} (h : '=' ∉ text.toList) : Refused (.pushText text) (.argument (.tagWithoutEquals text))
  | noJson {text : String} {fault : Json.Fault} (h : Json.parse text = .error fault) :
    Refused (.extendJson text) (.json fault)
  | noList {text : String} {v : Json.Value} (h : Json.parse text = .ok v) (hv : ∀ items, v ≠ .array items) :
    Refused (.extendJson text) (.argument (.tagsNoList v))
  | flaw {text : String} {good rest : List Json.Value} {bad : Json.Value} {cause : InvalidArgument}
    (h : Json.parse text = .ok (.array (good ++ bad :: rest))) (hgood : ∀ item ∈ good, Tag.IsPair item)
    (hflaw : Tag.Flaw good.length bad cause) : Refused (.extendJson text) (.argument cause)

theorem listOfJson_eq_error {text : String} {fault : TagFault} :
    Tag.listOfJson text = .error fault ↔ Refused (.extendJson text) fault := by
  unfold Tag.listOfJson
  cases hparse : Json.parse text with
  | error cause =>
    constructor
    · rintro ⟨⟩
      exact .noJson hparse
    · rintro (_ | h | ⟨h, -⟩ | ⟨h, -, -⟩)
      all_goals cases hparse.symm.trans h
      rfl
  | ok v =>
    dsimp only
    rw [mapError_eq_error]
    constructor
    · rintro ⟨cause, hcause, rfl⟩
      rcases Tag.listOfValue_eq_error.1 hcause with ⟨hv, rfl⟩ | ⟨good, bad, rest, rfl, hgood, hflaw⟩
      · exact .noList hparse hv
      · exact .flaw hparse hgood hflaw
    · rintro (_ | h | ⟨h, hv⟩ | ⟨h, hgood, hflaw⟩)
      all_goals cases hparse.symm.trans h
      · exact ⟨_, Tag.listOfValue_eq_error.2 (.inl ⟨hv, rfl⟩), rfl⟩
      · exact ⟨_, Tag.listOfValue_eq_error.2 (.inr ⟨_, _, _, rfl, hgood, hflaw⟩), rfl⟩

/-- **A change that goes well** clears the list or adds to it. -/
theorem apply_eq_ok {tags tags' : List Tag} {change : TagChange} :
    change.apply tags = .ok tags' ↔ (change = .reset ∧ tags' = []) ∨ ∃ more, Adds tags change more ∧ tags' = tags ++ more := by
  constructor
  · intro h
    cases change with
    | push tag =>
      cases h
      exact .inr ⟨_, .push tag, rfl⟩
    | pushText text =>
      obtain ⟨tag, htag, rfl⟩ := map_eq_ok.1 (mapError_eq_ok.1 h)
      obtain ⟨rfl, hkey⟩ := Tag.ofText_eq_ok.1 htag
      exact .inr ⟨_, .pushText hkey, rfl⟩
    | extend more =>
      cases h
      exact .inr ⟨_, .extend more, rfl⟩
    | extendJson text =>
      obtain ⟨more, hmore, rfl⟩ := map_eq_ok.1 h
      exact .inr ⟨_, .extendJson (Tag.listOfJson_eq_ok.1 hmore), rfl⟩
    | extendSelf =>
      cases h
      exact .inr ⟨_, .extendSelf, rfl⟩
    | reset =>
      cases h
      exact .inl ⟨rfl, rfl⟩
  · rintro (⟨rfl, rfl⟩ | ⟨more, hadds, rfl⟩)
    · rfl
    cases hadds with
    | push tag => rfl
    | pushText h => exact mapError_eq_ok.2 (map_eq_ok.2 ⟨_, Tag.ofText_eq_ok.2 ⟨rfl, h⟩, rfl⟩)
    | extend => rfl
    | extendJson h => exact map_eq_ok.2 ⟨_, Tag.listOfJson_eq_ok.2 h, rfl⟩
    | extendSelf => rfl

/-- **A change that is refused.** -/
theorem apply_eq_error {tags : List Tag} {change : TagChange} {fault : TagFault} :
    change.apply tags = .error fault ↔ Refused change fault := by
  cases change with
  | pushText text =>
    rw [apply, mapError_eq_error]
    simp only [map_eq_error, Tag.ofText_eq_error]
    constructor
    · rintro ⟨_, ⟨h, rfl⟩, rfl⟩
      exact .noEquals h
    · rintro ⟨h⟩
      exact ⟨_, ⟨h, rfl⟩, rfl⟩
  | extendJson text => rw [apply, map_eq_error, listOfJson_eq_error]
  | _ => exact ⟨(fun h => by cases h), fun h => by cases h⟩

theorem adds_or_refused (tags : List Tag) (change : TagChange) :
    change = .reset ∨ (∃ more, Adds tags change more) ∨ ∃ fault, Refused change fault := by
  cases h : change.apply tags with
  | ok tags' =>
    rcases apply_eq_ok.1 h with ⟨hreset, -⟩ | ⟨more, hadds, -⟩
    · exact .inl hreset
    · exact .inr (.inl ⟨more, hadds⟩)
  | error fault => exact .inr (.inr ⟨fault, apply_eq_error.1 h⟩)

theorem after_of_adds {tags more : List Tag} {change : TagChange} (h : Adds tags change more) :
    change.after tags = tags ++ more := by
  rw [after, apply_eq_ok.2 (.inr ⟨more, h, rfl⟩)]

theorem after_of_refused {tags : List Tag} {change : TagChange} {fault : TagFault} (h : Refused change fault) :
    change.after tags = tags := by
  rw [after, apply_eq_error.2 h]

/-! ## Any number of changes -/

/-- **What changes add to a list, part by part.**  Each adds to the list as it then stands; those that are refused add
nothing, and none clears the list. -/
inductive Contributed : List Tag → List TagChange → List (List Tag) → Prop where
  | nil {tags : List Tag} : Contributed tags [] []
  | adds {tags more : List Tag} {change : TagChange} {rest : List TagChange} {parts : List (List Tag)}
    (h : Adds tags change more) (hrest : Contributed (tags ++ more) rest parts) :
    Contributed tags (change :: rest) (more :: parts)
  | refused {tags : List Tag} {change : TagChange} {fault : TagFault} {rest : List TagChange} {parts : List (List Tag)}
    (h : Refused change fault) (hrest : Contributed tags rest parts) : Contributed tags (change :: rest) parts

theorem foldl_after {tags : List Tag} {changes : List TagChange} {parts : List (List Tag)}
    (h : Contributed tags changes parts) : changes.foldl after tags = tags ++ parts.flatten := by
  induction h with
  | nil => rw [List.foldl_nil, List.flatten_nil, List.append_nil]
  | adds h _ ih => rw [List.foldl_cons, after_of_adds h, ih, List.flatten_cons, List.append_assoc]
  | refused h _ ih => rw [List.foldl_cons, after_of_refused h, ih]

theorem exists_contributed {changes : List TagChange} (h : .reset ∉ changes) (tags : List Tag) :
    ∃ parts, Contributed tags changes parts := by
  induction changes generalizing tags with
  | nil => exact ⟨[], .nil⟩
  | cons change changes ih =>
    have ih := ih (List.not_mem_of_not_mem_cons h)
    rcases adds_or_refused tags change with rfl | ⟨more, hadds⟩ | ⟨fault, hrefused⟩
    · exact absurd List.mem_cons_self h
    · obtain ⟨parts, hparts⟩ := ih (tags ++ more)
      exact ⟨more :: parts, .adds hadds hparts⟩
    · obtain ⟨parts, hparts⟩ := ih tags
      exact ⟨parts, .refused hrefused hparts⟩

def UpToReset (changes : List TagChange) : Prop := changes = [] ∨ ∃ earlier, changes = earlier ++ [.reset]

theorem exists_lastReset (changes : List TagChange) :
    ∃ cleared since, changes = cleared ++ since ∧ UpToReset cleared ∧ .reset ∉ since := by
  induction changes with
  | nil => exact ⟨[], [], rfl, .inl rfl, List.not_mem_nil⟩
  | cons change changes ih =>
    obtain ⟨cleared, since, rfl, rfl | ⟨earlier, rfl⟩, hsince⟩ := ih
    · by_cases hchange : change = .reset
      · subst hchange
        exact ⟨[.reset], since, rfl, .inr ⟨[], rfl⟩, hsince⟩
      · exact ⟨[], change :: since, rfl, .inl rfl, List.not_mem_cons_of_ne_of_not_mem (Ne.symm hchange) hsince⟩
    · exact ⟨change :: (earlier ++ [.reset]), since, rfl, .inr ⟨change :: earlier, rfl⟩, hsince⟩

theorem run_of_upToReset {changes : List TagChange} (h : UpToReset changes) : run changes = [] := by
  rcases h with rfl | ⟨earlier, rfl⟩
  · rfl
  · rw [run, List.foldl_append]
    rfl

theorem run_concat (changes : List TagChange) (change : TagChange) :
    run (changes ++ [change]) = change.after (run changes) := by
  rw [run, List.foldl_append]
  rfl

/-- **A list of tags only grows, and all at once, until it is cleared.**  After any changes to an empty list it holds what
those since it was last cleared have added, each as the list then stood, one behind the other; there are as many tags as
these, and none just when that number is zero.  One more change clears the list, or adds behind what is there, or is refused;
it is refused for a text without an equals sign, for a text that is no JSON or no list, and for a list in which an item is no
pair of strings, however many pairs stand before it, and then the list is what it was. -/
theorem run_appended (changes : List TagChange) :
    (∃ cleared since parts, changes = cleared ++ since ∧ UpToReset cleared ∧ .reset ∉ since ∧ Contributed [] since parts ∧
      run changes = parts.flatten ∧ (run changes).length = (parts.map List.length).sum) ∧
    ((run changes).isEmpty = true ↔ (run changes).length = 0) ∧
    run (changes ++ [.reset]) = [] ∧
    (∀ change more, Adds (run changes) change more →
      change.apply (run changes) = .ok (run changes ++ more) ∧ run (changes ++ [change]) = run changes ++ more) ∧
    (∀ change fault, change.apply (run changes) = .error fault ↔ Refused change fault) ∧
    (∀ change fault, change.apply (run changes) = .error fault → run (changes ++ [change]) = run changes) ∧
    ∀ change, change = .reset ∨ (∃ more, Adds (run changes) change more) ∨ ∃ fault, Refused change fault := by
  refine ⟨?_, ?_, ?_, fun change more h => ⟨?_, ?_⟩, fun _ _ => apply_eq_error, fun change fault h => ?_, ?_⟩
  · obtain ⟨cleared, since, rfl, hcleared, hsince⟩ := exists_lastReset changes
    obtain ⟨parts, hparts⟩ := exists_contributed hsince []
    have hrun : run (cleared ++ since) = parts.flatten := by
      rw [run, List.foldl_append]
      exact (congrArg (since.foldl after) (run_of_upToReset hcleared)).trans (foldl_after hparts)
    exact ⟨cleared, since, parts, rfl, hcleared, hsince, hparts, hrun, by rw [hrun, List.length_flatten]⟩
  · rw [List.isEmpty_iff, List.length_eq_zero_iff]
  · exact run_of_upToReset (.inr ⟨changes, rfl⟩)
  · exact apply_eq_ok.2 (.inr ⟨more, h, rfl⟩)
  · rw [run_concat, after_of_adds h]
  · rw [run_concat, after_of_refused (apply_eq_error.1 h)]
  · exact adds_or_refused _

end TagChange
end SinkReporter
