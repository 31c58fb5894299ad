import SinkReporter.Event
import SinkReporter.Json.Record
import SinkReporter.Json.Printer
/-!
# Plugin — the service that test runners tell about their test cases

No plugin does anything yet: each request is logged and answered with an empty response.
-/
namespace SinkReporter
namespace Plugin

open Json (Value Form)

def serviceAddress : String := "localhost:32279"

def workerCount : Nat := 10

structure TestCase where
  name : String
  deriving DecidableEq, Repr

inductive Request where
  | willStart (testCase : TestCase)
  | didFinish (testCase : TestCase)
  | didFail (testCase : TestCase) (error : Option String)
  | listEnabled
  deriving DecidableEq, Repr

inductive Operation where
  | willStart
  | didFinish
  | didFail
  | listEnabled
  deriving DecidableEq, Repr

def Operation.name : Operation → String
  | .willStart => "TestCaseWillStart"
  | .didFinish => "TestCaseDidFinish"
  | .didFail => "TestCaseDidFail"
  | .listEnabled => "ListEnabledPlugins"

def Operation.requestName (op : Operation) : String := op.name ++ "Request"

def Request.operation : Request → Operation
  | .willStart _ => .willStart
  | .didFinish _ => .didFinish
  | .didFail .. => .didFail
  | .listEnabled => .listEnabled

/-! ## Requests as JSON -/

def TestCase.document (t : TestCase) : Value := .object [("name", .string t.name)]

def Request.document : Request → Value
  | .willStart t => .object [("test_case", t.document)]
  | .didFinish t => .object [("test_case", t.document)]
  | .didFail t error => .object [("test_case", t.document),
      ("error", match error with
        | some e => .string e
        | none => .null)]
  | .listEnabled => .object []

def Request.text (r : Request) : String := r.document.compact

def TestCase.form : Form TestCase := (Json.single "TestCase" "name" TestCase.mk).form

def testCaseForm (op : Operation) (make : TestCase → Request) : Form Request := Json.Record.form {
  name := op.requestName
  fields := [.of "test_case" TestCase.form id (fun _ x => some x) false]
  exact := false
  blank := none
  finish := fun d => (Json.need "test_case" d).map make }

structure FailureDraft where
  testCase : Option TestCase
  error : Option (Option String)

def failureForm : Form Request := Json.Record.form {
  name := Operation.didFail.requestName
  fields := [
    .of "test_case" TestCase.form FailureDraft.testCase (fun d x => { d with testCase := some x }) false,
    .of "error" (.optional .text) FailureDraft.error (fun d x => { d with error := some x }) true]
  exact := false
  blank := ⟨none, none⟩
  finish := fun d => (Json.need "test_case" d.testCase).map fun t => .didFail t (d.error.getD none) }

def emptyForm : Form Request := Json.Record.form {
  name := Operation.listEnabled.requestName
  fields := []
  exact := false
  blank := ()
  finish := fun _ => .ok .listEnabled }

/-- **How the requests of an operation are read.** -/
def Operation.form : Operation → Form Request
  | .willStart => testCaseForm .willStart .willStart
  | .didFinish => testCaseForm .didFinish .didFinish
  | .didFail => failureForm
  | .listEnabled => emptyForm

/-! ## Serving -/

def TestCase.quoted (t : TestCase) : String := "TestCase \x7b name: " ++ Text.quoted t.name ++ " \x7d"

def errorText : Option String → String
  | some e => "Some(" ++ Text.quoted e ++ ")"
  | none => "None"

def Request.quotedFields : Request → List String
  | .willStart t => ["test_case: " ++ t.quoted]
  | .didFinish t => ["test_case: " ++ t.quoted]
  | .didFail t error => ["test_case: " ++ t.quoted, "error: " ++ errorText error]
  | .listEnabled => []

def Request.fieldsText (r : Request) : String :=
  match r.quotedFields with
  | [] => ""
  | fields => " \x7b " ++ String.intercalate ", " fields ++ " \x7d"

/-- **A request for the log**: names and errors are quoted, so no request can pass for another. -/
def Request.quoted (r : Request) : String := r.operation.requestName ++ r.fieldsText

def emptyResponse : Value := .object []

/-- **Serves a request**: the response, and the event that tells of it. -/
def serve (r : Request) : Value × List Event := (emptyResponse, [.received r.operation.name r.quoted])

end Plugin
end SinkReporter
