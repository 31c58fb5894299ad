import SinkReporter.Proofs.Command.Stages
import SinkReporter.Proofs.Record.Composition
import SinkReporter.Proofs.Record.TagList
/-!
# Proofs.Command.Tags — which tags the arguments give

Those in JSON come first and then the texts, each in its order (`collectTags_eq_ok`).  Everything that may be at fault
stands in one list, and the first that is decides (`errorOf_collectTags_eq`).
-/
namespace SinkReporter
namespace Command

/-! ## Tags that are given -/

/-- The tags that the argument in JSON gives: none without it. -/
def GivenJson (json : Option String) (tags : List Tag) : Prop :=
  (json = none ∧ tags = []) ∨ ∃ text, json = some text ∧ Json.parse text = .ok (.array (tags.map Tag.pair))

/-- The tags that texts give: each text is cut at its first equals sign. -/
def GivenTexts (texts : List String) (tags : List Tag) : Prop :=
  List.Forall₂ (fun text (tag : Tag) => text = tag.text ∧ '=' ∉ tag.key.toList) texts tags

theorem jsonTags_eq_ok {json : Option String} {tags : List Tag} : jsonTags json = .ok tags ↔ GivenJson json tags := by
  cases json with
  | none => simp [jsonTags, GivenJson, eq_comm]
  | some text =>
    have hgiven : GivenJson (some text) tags ↔ Tag.listOfJson text = .ok tags := by
      simp [GivenJson, Tag.listOfJson_eq_ok]
    rw [hgiven, jsonTags]
    split
    · rename_i found hfound
      rw [hfound, Except.ok.injEq, Except.ok.injEq]
    · rename_i fault hfault
      simp [hfault]
    · rename_i cause hcause
      simp [hcause]

theorem textTags_eq_ok {texts : List String} {tags : List Tag} : textTags texts = .ok tags ↔ GivenTexts texts tags := by
  induction texts generalizing tags with
  | nil => simp [textTags, GivenTexts, eq_comm]
  | cons text texts ih =>
    rw [textTags, GivenTexts, List.forall₂_cons_left_iff]
    constructor
    · intro h
      split at h
      · cases h
      rename_i tag htag
      obtain ⟨rest, hrest, rfl⟩ := map_eq_ok.1 h
      exact ⟨tag, rest, Tag.ofText_eq_ok.1 htag, ih.1 hrest, rfl⟩
    · rintro ⟨tag, rest, htag, hrest, rfl⟩
      rw [Tag.ofText_eq_ok.2 htag]
      exact map_eq_ok.2 ⟨rest, ih.2 hrest, rfl⟩

variable {a : ResultArguments}

theorem collectTags_eq_none : collectTags a = .ok none ↔ a.tags = [] ∧ a.tagsJson = none := by
  unfold collectTags
  split
  · rename_i h
    simp [h]
  · rename_i h
    refine iff_of_false (fun hnone => ?_) h
    split at hnone
    · cases hnone
    · obtain ⟨more, -, heq⟩ := map_eq_ok.1 (mapError_eq_ok.1 hnone)
      cases heq

/-- **The tags that are given**: those in JSON and after them those of the texts. -/
theorem collectTags_eq_ok {tags : List Tag} :
    collectTags a = .ok (some tags) ↔
      ¬(a.tags = [] ∧ a.tagsJson = none) ∧
        ∃ first more, GivenJson a.tagsJson first ∧ GivenTexts a.tags more ∧ tags = first ++ more := by
  unfold collectTags
  split
  · rename_i h
    simp [h]
  · rename_i h
    rw [and_iff_right h]
    constructor
    · intro hsome
      split at hsome
      · cases hsome
      rename_i first hfirst
      obtain ⟨more, hmore, heq⟩ := map_eq_ok.1 (mapError_eq_ok.1 hsome)
      cases heq
      exact ⟨first, more, jsonTags_eq_ok.1 hfirst, textTags_eq_ok.1 hmore, rfl⟩
    · rintro ⟨first, more, hfirst, hmore, rfl⟩
      rw [jsonTags_eq_ok.2 hfirst]
      exact mapError_eq_ok.2 (map_eq_ok.2 ⟨more, textTags_eq_ok.2 hmore, rfl⟩)

/-! ## What may be at fault -/

/-- The faults of the argument in JSON: that of its text, or else one for each item that is no pair of strings. -/
def jsonFaults : Option String → List (Option Failure)
  | none => []
  | some text =>
    match Json.parse text with
    | .error fault => [some ⟨"--tags-json is not valid JSON", [fault.message]⟩]
    | .ok (.array items) => items.zipIdx.map fun item => (errorOf (Tag.ofPair item.2 item.1)).map argumentFailure
    | .ok found => [some (argumentFailure (.tagsNoList found))]

def textFault (text : String) : Option Failure :=
  if '=' ∈ text.toList then none else some (argumentFailure (.tagWithoutEquals text))

theorem errorOf_jsonTags_eq (json : Option String) : errorOf (jsonTags json) = (jsonFaults json).findSome? id := by
  cases json with
  | none => rfl
  | some text =>
    rw [jsonTags, jsonFaults, Tag.listOfJson]
    cases Json.parse text with
    | error fault => rfl
    | ok found =>
      cases found with
      | array items =>
        have hitems : ((items.zipIdx.map fun item => (errorOf (Tag.ofPair item.2 item.1)).map argumentFailure).findSome?
            id) = (errorOf (Tag.listOfValue (.array items))).map argumentFailure := by
          rw [Tag.errorOf_listOfValue, List.map_findSome?, List.findSome?_map]
          rfl
        dsimp only
        rw [hitems]
        cases Tag.listOfValue (.array items) <;> rfl
      | _ => rfl

/-- **The first fault decides**: those of the argument in JSON come before those of the texts. -/
theorem errorOf_collectTags_eq (a : ResultArguments) :
    errorOf (collectTags a) = (jsonFaults a.tagsJson ++ a.tags.map textFault).findSome? id := by
  have hone : textFault = fun text => (errorOf (Tag.ofText text)).map argumentFailure := funext fun text => by
    rw [textFault, Tag.errorOf_ofText]
    split <;> rfl
  rw [errorOf_collectTags_or, List.findSome?_append, ← errorOf_jsonTags_eq, errorOf_textTags, List.map_findSome?,
    List.findSome?_map, hone]
  rfl

/-! ## When tags are had -/

theorem exists_givenJson {json : Option String} :
    (∃ tags, GivenJson json tags) ↔
      ∀ text, json = some text → ∃ tags : List Tag, Json.parse text = .ok (.array (tags.map Tag.pair)) := by
  cases json with
  | none => simp [GivenJson]
  | some text => simp [GivenJson]

theorem exists_givenTexts {texts : List String} :
    (∃ tags, GivenTexts texts tags) ↔ ∀ text ∈ texts, '=' ∈ text.toList := by
  simp only [← textTags_eq_ok, ← errorOf_eq_none, errorOf_textTags, List.findSome?_eq_none_iff, Tag.errorOf_ofText,
    ite_eq_left_iff, reduceCtorEq, imp_false, Decidable.not_not]

theorem givenTexts_map_text {tags : List Tag} (h : ∀ tag ∈ tags, '=' ∉ tag.key.toList) :
    GivenTexts (tags.map Tag.text) tags :=
  List.forall₂_map_left_iff.2 (List.forall₂_same.2 fun tag htag => ⟨rfl, h tag htag⟩)

theorem composeRecord_of_tags {w : World} {log : Option Bytes} {tags : List Tag} (hlog : readLog w a.logFile = .ok log)
    (htags : collectTags a = .ok (some tags)) (hstatus : a.status ∈ TestResult.statusNames) (hid : a.testId ≠ "") :
    ∃ r, composeRecord w a = .ok r ∧ r.tags = tags := by
  obtain ⟨status, hname⟩ := TestResult.mem_statusNames.1 hstatus
  refine ⟨TestResult.ofOutcome a.testId status a.expected log (some tags), ?_, rfl⟩
  rw [composeRecord, hlog]
  dsimp only
  rw [htags]
  refine mapError_eq_ok.2 (bind_eq_ok.2 ⟨status, Status.ofText_eq_ok.2 hname, ?_⟩)
  exact TestResult.compose_eq_ok.2 ⟨hid, rfl⟩

end Command
end SinkReporter
