import SinkReporter.Endpoint
import SinkReporter.Event
import SinkReporter.Json.Record
/-!
# Context — the file that says where the sink is

A variable of the environment names a JSON file, and one section of that file holds the sink's address and token.  Other
sections are no concern of this program.  Without a usable section there is no sink, which is no error for those who
report.
-/
namespace SinkReporter

open Json (Form)

structure SinkSection where
  address : Option String
  authToken : Option String
  deriving DecidableEq, Repr

structure Context where
  resultSink : Option SinkSection
  deriving DecidableEq, Repr

structure SinkSection.Draft where
  address : Option (Option String)
  authToken : Option (Option String)

/-- The fields of the section.  Both may be missing, from an array too. -/
def SinkSection.record : Json.Record SinkSection.Draft SinkSection where
  name := "ResultSinkSection"
  fields := [
    .of "address" (.optional .text) Draft.address (fun d x => { d with address := some x }) true,
    .of "auth_token" (.optional .text) Draft.authToken (fun d x => { d with authToken := some x }) true]
  exact := false
  blank := ⟨none, none⟩
  finish := fun d => .ok ⟨d.address.getD none, d.authToken.getD none⟩

def SinkSection.form : Form SinkSection := SinkSection.record.form

namespace Context

def record : Json.Record (Option (Option SinkSection)) Context where
  name := "LuciContext"
  fields := [.of "result_sink" (.optional SinkSection.form) id (fun _ x => some x) true]
  exact := false
  blank := none
  finish := fun d => .ok ⟨d.getD none⟩

/-- **How a context file is read.** -/
def form : Form Context := record.form

def defaultVariable : String := "LUCI_CONTEXT"

/-- **The endpoint in a context file**, the file's path being given for the message. -/
def endpoint (c : Context) (path : Bytes) : Except ConfigFault Endpoint :=
  match c.resultSink with
  | none => .error (.missingField "result_sink" path)
  | some sink =>
    match sink.address with
    | none => .error (.missingField "result_sink.address" path)
    | some address =>
      if address = "" then .error (.invalidValue "result_sink.address" "address is empty")
      else
        match sink.authToken with
        | none => .error (.missingField "result_sink.auth_token" path)
        | some token => .ok ⟨address, token⟩

def load (w : World) (path : Bytes) : Except ConfigFault Context :=
  match w.readText path with
  | .error e => .error (.ofFile path e)
  | .ok text => (form.ofText text).mapError (.badJson path)

def path (w : World) (name : String) : Except ConfigFault Bytes :=
  match w.path? name with
  | some path => .ok path
  | none => .error (.variableNotSet name)

def endpointAt (w : World) (path : Bytes) : Except ConfigFault Endpoint :=
  (load w path).bind (·.endpoint path)

/-- **The endpoint that the variable of a name leads to**, or why there is none. -/
def tryResolve (w : World) (name : String) : Except ConfigFault Endpoint :=
  (path w name).bind (endpointAt w)

/-- **The endpoint that a variable leads to, if any**, and the event that tells of it. -/
def resolve (w : World) (name : String) : Option Endpoint × List Event :=
  match tryResolve w name with
  | .ok e => (some e, [.resolved e.address])
  | .error fault => (none, [.notResolved fault])

end Context
end SinkReporter
