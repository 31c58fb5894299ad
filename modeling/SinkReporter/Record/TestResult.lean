import SinkReporter.Record.Status
import SinkReporter.Record.Tag
import SinkReporter.Record.Artifact
/-!
# Record.TestResult — one test's outcome as the sink takes it

A record repeats the test's id as the name in its metadata, and it has a log either as an artifact together with the
snippet that embeds it, or not at all.  `composeWithStatus` builds such records and `TestResult.checked` asks the
same of records that were read.
-/
namespace SinkReporter

open Json (Value Form Misfit)

structure TestMetadata where
  name : String
  deriving DecidableEq, Repr

/-- One test's outcome, field by field as the sink takes it. -/
structure TestResult where
  testId : String
  status : Status
  expected : Bool
  summaryHtml : Option String
  artifacts : Option (List (String × Artifact))
  tags : List Tag
  testMetadata : TestMetadata
  deriving DecidableEq, Repr

def logName : String := "Test Log"

def logSummary : String := "<text-artifact artifact-id=\"Test Log\" />"

/-! ## Composing -/

def Status.ofText (text : String) : Except InvalidArgument Status :=
  match Status.ofName? text with
  | some status => .ok status
  | none => .error (.unknownStatus text)

def checkTestId (testId : String) : Except InvalidArgument Unit :=
  if testId = "" then .error .emptyTestId else .ok ()

def compose (testId : String) (status : Status) (expected : Bool) (log : Option Bytes) (tags : Option (List Tag)) :
    Except InvalidArgument TestResult :=
  (checkTestId testId).map fun () => {
    testId
    status
    expected
    summaryHtml := log.map fun _ => logSummary
    artifacts := log.map fun data => [(logName, Artifact.ofBytes data)]
    tags := tags.getD []
    testMetadata := ⟨testId⟩ }

/-- **The record of an outcome whose status is given**; the log is a text. -/
def composeWithStatus (testId : String) (status : Status) (expected : Bool) (log : Option String)
    (tags : Option (List Tag)) : Except InvalidArgument TestResult :=
  compose testId status expected (log.map Text.bytes) tags

/-- **The record of an outcome whose status is named**; the log is a text.  The status is looked at before the id. -/
def composeWithText (testId status : String) (expected : Bool) (log : Option String) (tags : Option (List Tag)) :
    Except InvalidArgument TestResult :=
  (Status.ofText status).bind fun status => composeWithStatus testId status expected log tags

/-- **The record of an outcome whose status is named**; the log is any bytes. -/
def composeWithLogBytes (testId status : String) (expected : Bool) (log : Option Bytes) (tags : Option (List Tag)) :
    Except InvalidArgument TestResult :=
  (Status.ofText status).bind fun status => compose testId status expected log tags

namespace TestResult

def testLog (r : TestResult) : Option Artifact :=
  (r.artifacts.getD []).find? (·.1 = logName) |>.map (·.2)

/-! ## Checking -/

def checkLog (summary : Option String) (artifacts : Option (List (String × Artifact))) : Except InvalidArgument Unit :=
  match summary, artifacts with
  | none, none => .ok ()
  | some summary, some artifacts =>
    if summary ≠ logSummary then .error (.otherSummary summary)
    else
      match artifacts with
      | [(name, log)] =>
        if name = logName then
          match log.bytes with
          | .ok _ => .ok ()
          | .error fault => .error (.undecodableLog fault)
        else .error .otherArtifacts
      | _ => .error .otherArtifacts
  | _, _ => .error .halfALog

/-- **A record that was read, once it is found to be one that can be composed.** -/
def checked (r : TestResult) : Except InvalidArgument TestResult :=
  match checkTestId r.testId with
  | .error e => .error e
  | .ok () =>
    if r.testMetadata.name ≠ r.testId then .error (.otherName r.testMetadata.name r.testId)
    else (checkLog r.summaryHtml r.artifacts).map fun () => r

end TestResult

/-! ## Writing -/

def TestMetadata.document (metadata : TestMetadata) : Value := .object [("name", .string metadata.name)]

namespace TestResult

def optionalMember (name : String) : Option Value → List (String × Value)
  | none => []
  | some value => [(name, value)]

def artifactsDocument (artifacts : List (String × Artifact)) : Value :=
  .object (artifacts.map fun (name, artifact) => (name, artifact.document))

def document (r : TestResult) : Value :=
  .object ([("testId", .string r.testId), ("status", .string r.status.name), ("expected", .bool r.expected)]
    ++ optionalMember "summaryHtml" (r.summaryHtml.map .string)
    ++ optionalMember "artifacts" (r.artifacts.map artifactsDocument)
    ++ [("tags", .array (r.tags.map Tag.document)), ("testMetadata", r.testMetadata.document)])

/-- **The text of a record.** -/
def text (r : TestResult) : String := r.document.compact

def toJson (r : TestResult) : Value := r.document.canonical

end TestResult

/-! ## Reading -/

/-- How metadata is read: an object with the one member, or an array of the one string. -/
def TestMetadata.form : Form TestMetadata := (Json.single "TestMetadata" "name" TestMetadata.mk).form

/-- How a status is read: its name, or an object whose one member has that name. -/
def Status.form : Form Status := .choice Status.names Status.ofName?

namespace TestResult

structure Draft where
  testId : Option String := none
  status : Option Status := none
  expected : Option Bool := none
  summaryHtml : Option (Option String) := none
  artifacts : Option (Option (List (String × Artifact))) := none
  tags : Option (List Tag) := none
  testMetadata : Option TestMetadata := none

/-- The record of a draft.  The log and the tags may be missing. -/
def Draft.finish (d : Draft) : Except Misfit TestResult := do
  let testId ← Json.need "testId" d.testId
  let status ← Json.need "status" d.status
  let expected ← Json.need "expected" d.expected
  let testMetadata ← Json.need "testMetadata" d.testMetadata
  return {
    testId
    status
    expected
    summaryHtml := d.summaryHtml.getD none
    artifacts := d.artifacts.getD none
    tags := d.tags.getD []
    testMetadata }

def record : Json.Record Draft TestResult where
  name := "RawTestResult"
  fields := [
    .of "testId" .text Draft.testId (fun d x => { d with testId := some x }) false,
    .of "status" Status.form Draft.status (fun d x => { d with status := some x }) false,
    .of "expected" .boolean Draft.expected (fun d x => { d with expected := some x }) false,
    .of "summaryHtml" (.optional .text) Draft.summaryHtml (fun d x => { d with summaryHtml := some x }) true,
    .of "artifacts" (.optional (.map Artifact.form)) Draft.artifacts (fun d x => { d with artifacts := some x }) true,
    .of "tags" (.list Tag.form) Draft.tags (fun d x => { d with tags := some x }) true,
    .of "testMetadata" TestMetadata.form Draft.testMetadata (fun d x => { d with testMetadata := some x }) false]
  exact := false
  blank := {}
  finish := Draft.finish

/-- **How a record is read**: its fields, and then the check that ties them together. -/
def form : Form TestResult :=
  record.form.checked fun r => r.checked.mapError fun e => .refused e.message

end TestResult
end SinkReporter
