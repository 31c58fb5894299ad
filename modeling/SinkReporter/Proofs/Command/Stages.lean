import SinkReporter.Command.Run
import SinkReporter.Proofs.Record.WellFormed
/-!
# Proofs.Command.Stages — which fault of the arguments is told

The arguments about a result are looked at in stages: the log, the tags in JSON, the other tags from left to right, the
status and the test's id.  Whether a stage has a fault is a matter of its own and not of the stages before it, and the
first stage that has one decides how composing fails (`errorOf_composeRecord`).
-/
namespace SinkReporter
namespace Command

/-- A stage of looking at the arguments about a result. -/
inductive Stage where
  | log
  | tagsSyntax
  | tagsShape
  | tag (text : String)
  | status
  | testId

namespace ResultArguments

/-- **The stages in their order.** -/
def stages (a : ResultArguments) : List Stage :=
  [.log, .tagsSyntax, .tagsShape] ++ a.tags.map .tag ++ [.status, .testId]

/-- **The fault of a stage**, if it has one. -/
def fault? (w : World) (a : ResultArguments) : Stage → Option Failure
  | .log => a.logFile.bind fun path => (errorOf (w.read path)).map (logFailure path)
  | .tagsSyntax =>
    a.tagsJson.bind fun text =>
      (errorOf (Json.parse text)).map fun fault => ⟨"--tags-json is not valid JSON", [fault.message]⟩
  | .tagsShape =>
    a.tagsJson.bind fun text =>
      (Json.parse text).toOption.bind fun value => (errorOf (Tag.listOfValue value)).map argumentFailure
  | .tag text => (errorOf (Tag.ofText text)).map argumentFailure
  | .status => (errorOf (Status.ofText a.status)).map argumentFailure
  | .testId => (errorOf (checkTestId a.testId)).map argumentFailure

theorem length_causes_of_fault? {w : World} {a : ResultArguments} {stage : Stage} {f : Failure}
    (h : a.fault? w stage = some f) : f.causes.length ≤ 1 := by
  have hargument {x : Option InvalidArgument} (h : x.map argumentFailure = some f) : f.causes.length ≤ 1 := by
    obtain ⟨cause, -, rfl⟩ := Option.map_eq_some_iff.1 h
    exact Nat.zero_le 1
  cases stage with
  | log =>
    obtain ⟨path, -, h⟩ := Option.bind_eq_some_iff.1 h
    obtain ⟨cause, -, rfl⟩ := Option.map_eq_some_iff.1 h
    exact Nat.le_refl 1
  | tagsSyntax =>
    obtain ⟨text, -, h⟩ := Option.bind_eq_some_iff.1 h
    obtain ⟨fault, -, rfl⟩ := Option.map_eq_some_iff.1 h
    exact Nat.le_refl 1
  | tagsShape =>
    obtain ⟨text, -, h⟩ := Option.bind_eq_some_iff.1 h
    obtain ⟨value, -, h⟩ := Option.bind_eq_some_iff.1 h
    exact hargument h
  | tag text => exact hargument h
  | status => exact hargument h
  | testId => exact hargument h

end ResultArguments

/-! ## Stage by stage -/

section

variable (w : World) (a : ResultArguments)

theorem errorOf_readLog : errorOf (readLog w a.logFile) = a.fault? w .log := by
  unfold readLog ResultArguments.fault?
  cases a.logFile with
  | none => rfl
  | some path =>
    dsimp only [Option.bind_some]
    cases w.read path <;> rfl

theorem errorOf_jsonTags : errorOf (jsonTags a.tagsJson) = (a.fault? w .tagsSyntax).or (a.fault? w .tagsShape) := by
  unfold jsonTags ResultArguments.fault?
  cases a.tagsJson with
  | none => rfl
  | some text =>
    dsimp only [Option.bind_some]
    unfold Tag.listOfJson
    cases Json.parse text with
    | error fault => rfl
    | ok value =>
      simp only [Except.toOption, errorOf_ok, Option.map_none, Option.none_or, Option.bind_some]
      cases Tag.listOfValue value <;> rfl

theorem errorOf_textTags : ∀ texts : List String,
    errorOf (textTags texts) = texts.findSome? fun text => errorOf (Tag.ofText text)
  | [] => rfl
  | text :: rest => by
    rw [textTags, List.findSome?_cons]
    cases Tag.ofText text with
    | error cause => rfl
    | ok tag =>
      dsimp only
      rw [errorOf_map, errorOf_textTags rest]
      rfl

theorem errorOf_collectTags_or :
    errorOf (collectTags a) = (errorOf (jsonTags a.tagsJson)).or ((errorOf (textTags a.tags)).map argumentFailure) := by
  unfold collectTags
  split
  · -- where no tags are given at all there is nothing to be at fault
    rename_i hnone
    rw [hnone.1, hnone.2]
    rfl
  · cases jsonTags a.tagsJson with
    | error f => rfl
    | ok first =>
      dsimp only
      rw [errorOf_mapError, errorOf_map]
      rfl

theorem errorOf_collectTags : errorOf (collectTags a) =
    ((a.fault? w .tagsSyntax).or (a.fault? w .tagsShape)).or (a.tags.findSome? fun text => a.fault? w (.tag text)) := by
  rw [errorOf_collectTags_or, ← errorOf_jsonTags, errorOf_textTags, List.map_findSome?]
  rfl

/-- **The first stage that has a fault decides.** -/
theorem errorOf_composeRecord : errorOf (composeRecord w a) = a.stages.findSome? (a.fault? w) := by
  have hstages : a.stages.findSome? (a.fault? w) =
      (a.fault? w .log).or ((((a.fault? w .tagsSyntax).or (a.fault? w .tagsShape)).or
        (a.tags.findSome? fun text => a.fault? w (.tag text))).or ((a.fault? w .status).or (a.fault? w .testId))) := by
    simp only [ResultArguments.stages, List.findSome?_append, List.findSome?_map, findSome?_cons_or, List.findSome?_nil,
      Option.or_none, Option.or_assoc]
    rfl
  -- the last two stages do not ask which log and which tags have been found
  rw [hstages, ← errorOf_readLog, ← errorOf_collectTags]
  unfold composeRecord
  cases readLog w a.logFile with
  | error f => rfl
  | ok log =>
    dsimp only [errorOf_ok]
    cases collectTags a with
    | error f => rfl
    | ok tags =>
      dsimp only
      rw [errorOf_mapError, TestResult.errorOf_composeWithLogBytes, Option.map_or]
      rfl

end

end Command
end SinkReporter
