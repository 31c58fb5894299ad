import SinkReporter.Http.Url
import SinkReporter.Event
/-!
# Http.Request — what is asked of a sink, and how that may go wrong
-/
namespace SinkReporter
namespace Http

/-- A request to post a body to an address. -/
structure Request where
  url : String
  headers : List (String × String)
  body : String
  deriving DecidableEq, Repr

def sameName (a b : String) : Bool := a.toList.map Char.toLower == b.toList.map Char.toLower

/-- **The value of the first header of a name**, the case of letters aside. -/
def Request.header? (r : Request) (name : String) : Option String :=
  (r.headers.find? fun header => sameName header.1 name).map (·.2)

inductive RequestFault where
  | noClient (cause : String)
  | headerName
  | headerValue
  | address (fault : UrlFault)
  | wrongScheme (url : String)
  | notCarried (url : String)
  | refused (url : String)
  | hungUp (url : String)
  | timedOut (url : String)
  deriving DecidableEq, Repr

namespace RequestFault

def message : RequestFault → String
  | .noClient _ => "builder error"
  | .headerName => "builder error"
  | .headerValue => "builder error"
  | .address _ => "builder error"
  | .wrongScheme url => "builder error for url (" ++ url ++ ")"
  | .notCarried url => "builder error for url (" ++ url ++ ")"
  | .refused url => "error sending request for url (" ++ url ++ ")"
  | .hungUp url => "error sending request for url (" ++ url ++ ")"
  | .timedOut url => "error sending request for url (" ++ url ++ ")"

def causes : RequestFault → List String
  | .noClient cause => [cause]
  | .headerName => ["invalid HTTP header name"]
  | .headerValue => ["failed to parse header value"]
  | .address fault => [fault.message]
  | .wrongScheme _ => ["URL scheme is not allowed"]
  | .notCarried _ => ["Parsed Url is not a valid Uri"]
  | .refused _ => ["client error (Connect)", "tcp connect error", "Connection refused (os error 111)"]
  | .hungUp _ => ["client error (SendRequest)", "connection closed before message completed"]
  | .timedOut _ => ["operation timed out"]

end RequestFault

/-- Why a session did not deliver a request, or had it rejected.  `clockOverflow` is told to nobody: a clock that cannot be
set so far ahead makes the program give up where it stands. -/
inductive SessionFault where
  | request (cause : RequestFault)
  | status (code : Nat) (body : String)
  | released
  | clockOverflow
  deriving DecidableEq, Repr

namespace SessionFault

/-- **The wording of a cause.** -/
def message : SessionFault → String
  | .request cause => "HTTP request failed: " ++ cause.message
  | .status code body => "Sink responded with HTTP " ++ toString code ++ ": " ++ body
  | .released => "HTTP session already released"
  | .clockOverflow => "overflow when adding duration to instant"

def causes : SessionFault → List String
  | .request cause => cause.message :: cause.causes
  | _ => []

end SessionFault

/-- What comes of sending a request: the answer, the events on the way and the state after it. -/
structure Sent (σ : Type) where
  answer : Except SessionFault Unit
  events : List Event
  state : σ

/-- **A way to reach a sink**, its state and all that it has brought about being `σ`. -/
structure Transport (σ : Type) where
  send : σ → Request → Sent σ
  release : σ → σ

/-- **A network**: a transport whose sessions are opened first, under a timeout, which may fail. -/
structure Network (σ : Type) extends Transport σ where
  connect : σ → Option UInt64 → Except SessionFault σ

/-! ## A transport that keeps what it is given -/

/-- What a recording transport has been given, the answers it has left, and how often it was released.  Without answers
left every send succeeds. -/
structure Recording where
  script : List (Except SessionFault Unit)
  requests : List Request
  releases : Nat

def Recording.transport : Transport Recording where
  send r request := {
    answer := r.script.headD (.ok ())
    events := []
    state := { r with script := r.script.tail, requests := r.requests ++ [request] } }
  release r := { r with releases := r.releases + 1 }

def Recording.network : Network Recording := { Recording.transport with connect := fun r _ => .ok r }

end Http
end SinkReporter
