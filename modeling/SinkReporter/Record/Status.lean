/-!
# Record.Status — how a test ended
-/
namespace SinkReporter

inductive Status where
  | pass
  | fail
  | crash
  | abort
  | skip
  deriving DecidableEq, Repr

namespace Status

def all : List Status := [.pass, .fail, .crash, .abort, .skip]

def name : Status → String
  | .pass => "PASS"
  | .fail => "FAIL"
  | .crash => "CRASH"
  | .abort => "ABORT"
  | .skip => "SKIP"

def names : List String := all.map name

def ofName? (text : String) : Option Status := all.find? (·.name = text)

end Status
end SinkReporter
