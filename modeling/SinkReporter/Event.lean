import SinkReporter.ConfigFault
import SinkReporter.Http.Reason
/-!
# Event — what happens, for the log
-/
namespace SinkReporter

inductive Level where
  | debug
  | info
  | warn
  deriving DecidableEq, Repr

def Level.name : Level → String
  | .debug => "DEBUG"
  | .info => "INFO"
  | .warn => "WARN"

/-- What happens. -/
inductive Event where
  | resolved (address : String)
  | notResolved (fault : ConfigFault)
  | settingsIgnored (fault : ConfigFault)
  | reporting (testId status url : String)
  | rejected (status : Nat) (body : String)
  | released (address : String)
  | reported (testId status : String)
  | received (operation request : String)

namespace Event

def level : Event → Level
  | .settingsIgnored _ | .rejected .. => .warn
  | .reported .. | .received .. => .info
  | _ => .debug

/-- **The wording of an event.** -/
def message : Event → String
  | .resolved address => "ResultSink resolved at " ++ address
  | .notResolved fault => "ResultSink not configured: " ++ fault.message
  | .settingsIgnored fault => "Ignoring invalid ResultSink settings: " ++ fault.message
  | .reporting testId status url => "Reporting " ++ testId ++ " (" ++ status ++ ") to " ++ url
  | .rejected status body =>
    "ResultSink rejected report with HTTP " ++ Http.statusLine status ++ ": " ++ body
  | .released address => "Closed ResultSink session to " ++ address
  | .reported testId status => "Reported " ++ testId ++ " as " ++ status
  | .received operation request => "Received request for " ++ operation ++ " " ++ request

def line (e : Event) : String := e.level.name ++ ": " ++ e.message

end Event
end SinkReporter
