import SinkReporter.Http.Request
import SinkReporter.Endpoint
import SinkReporter.Record.TestResult
/-!
# Client — reports test results until it is closed

A client knows its endpoint from the start.  Without one it does nothing and calls that success.  With one, each report
is one request, until the client is closed and its transport released.
-/
namespace SinkReporter

open Http (Request Transport SessionFault)

/-- Where a client stands. -/
inductive Client where
  | unconfigured
  | ready (endpoint : Endpoint)
  | closed (endpoint : Endpoint)
  deriving DecidableEq, Repr

/-- Why a report failed, by cause. -/
inductive ReportFault where
  | argument (cause : InvalidArgument)
  | session (cause : SessionFault)
  | closed

namespace ReportFault

/-- **The wording of a cause.** -/
def message : ReportFault → String
  | .argument cause => cause.message
  | .session cause => "Failed to report test result: " ++ cause.message
  | .closed => "ResultSink client is closed"

def causes : ReportFault → List String
  | .session cause => cause.message :: cause.causes
  | _ => []

end ReportFault

/-! ## Requests -/

def reportPath : String := "/prpc/luci.resultsink.v1.Sink/ReportTestResults"

def reportDocument (r : TestResult) : Json.Value := .object [("testResults", .array [r.document])]

/-- **The request that reports a record to an endpoint.** -/
def buildRequest (e : Endpoint) (r : TestResult) : Request where
  url := "http://" ++ e.address ++ reportPath
  headers := [("Content-Type", "application/json"), ("Accept", "application/json"),
    ("Authorization", "ResultSink " ++ e.authToken)]
  body := (reportDocument r).compact

/-! ## What a client does -/

/-- What comes of a call: the answer, the events on the way, and the client and its transport's state after it. -/
structure Done (σ : Type) where
  answer : Except ReportFault Unit
  events : List Event
  client : Client
  state : σ

structure Outcome where
  testId : String
  status : String
  expected : Bool
  log : Option String
  tags : Option (List Tag)

inductive Call where
  | post (outcome : Outcome)
  | postRecord (record : TestResult)
  | close

namespace Client

def ofEndpoint : Option Endpoint → Client
  | some e => .ready e
  | none => .unconfigured

def isConfigured : Client → Bool
  | .unconfigured => false
  | _ => true

def isClosed : Client → Bool
  | .closed _ => true
  | _ => false

def endpoint? : Client → Option Endpoint
  | .unconfigured => none
  | .ready e => some e
  | .closed e => some e

variable {σ : Type}

/-- **Reports a record.** -/
def postRecord (t : Transport σ) (c : Client) (state : σ) (r : TestResult) : Done σ :=
  match c with
  | .unconfigured => ⟨.ok (), [], c, state⟩
  | .closed _ => ⟨.error .closed, [], c, state⟩
  | .ready e =>
    let request := buildRequest e r
    let sent := t.send state request
    ⟨sent.answer.mapError .session, .reporting r.testId r.status.name request.url :: sent.events, c, sent.state⟩

/-- **Composes a record and reports it.**  A client that would not report does not compose either. -/
def post (t : Transport σ) (c : Client) (state : σ) (o : Outcome) : Done σ :=
  match c with
  | .unconfigured => ⟨.ok (), [], c, state⟩
  | .closed _ => ⟨.error .closed, [], c, state⟩
  | .ready _ =>
    match composeWithText o.testId o.status o.expected o.log o.tags with
    | .error cause => ⟨.error (.argument cause), [], c, state⟩
    | .ok r => postRecord t c state r

/-- **Closes a client**; only the first time something happens. -/
def close (t : Transport σ) (c : Client) (state : σ) : Done σ :=
  match c with
  | .ready e => ⟨.ok (), [.released e.address], .closed e, t.release state⟩
  | _ => ⟨.ok (), [], c, state⟩

/-- **Lets a client go**: it is closed now, unless it has been closed before. -/
def drop (t : Transport σ) (c : Client) (state : σ) : Done σ := close t c state

def call (t : Transport σ) (c : Client) (state : σ) : Call → Done σ
  | .post o => post t c state o
  | .postRecord r => postRecord t c state r
  | .close => close t c state

/-- **What comes of calls, one after the other**, and the client and its transport's state in the end. -/
def run (t : Transport σ) : Client → σ → List Call → List (Except ReportFault Unit × List Event) × Client × σ
  | c, state, [] => ([], c, state)
  | c, state, next :: rest =>
    let done := call t c state next
    let (answers, c, state) := run t done.client done.state rest
    ((done.answer, done.events) :: answers, c, state)

end Client
end SinkReporter
