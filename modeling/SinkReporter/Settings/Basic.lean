import SinkReporter.Settings.Document
import SinkReporter.ConfigFault
import SinkReporter.Context
import SinkReporter.Text.Blank
import SinkReporter.Json.Printer
/-!
# Settings — what a user may set

A timeout and the name of the variable that leads to the context file, both optional.  They come from a settings file
and from the environment, and the environment has the last word on each of them.
-/
namespace SinkReporter

open Json (Form)

/-- What a user may set. -/
structure Settings where
  timeoutSecs : Option UInt64
  contextVar : Option String
  deriving DecidableEq, Repr

namespace Settings

def empty : Settings := ⟨none, none⟩

def contextVariable (s : Settings) : String := s.contextVar.getD Context.defaultVariable

def isImpossibleName (name : String) : Bool := name = "" || name.toList.contains '='

/-- **Settings that make sense**: a timeout above zero and the name of a variable. -/
def validate (s : Settings) : Except ConfigFault Unit :=
  if s.timeoutSecs = some 0 then .error (.invalidValue "timeout_secs" "must be greater than zero")
  else
    match s.contextVar with
    | some name =>
      if isImpossibleName name then
        .error (.invalidValue "context_var" ("'" ++ name ++ "' is not a valid environment variable name"))
      else .ok ()
    | none => .ok ()

/-! ## As JSON -/

def document (s : Settings) : Json.Value :=
  .object ((match s.timeoutSecs with
      | some secs => [("timeout_secs", .number (.integer secs.toNat))]
      | none => [])
    ++ (match s.contextVar with
      | some name => [("context_var", .string name)]
      | none => []))

def text (s : Settings) : String := s.document.compact

structure Draft where
  timeoutSecs : Option (Option UInt64)
  contextVar : Option (Option String)

def record : Json.Record Draft Settings where
  name := "ClientSettings"
  fields := [
    .of "timeout_secs" (.optional .natural) Draft.timeoutSecs (fun d x => { d with timeoutSecs := some x }) false,
    .of "context_var" (.optional .text) Draft.contextVar (fun d x => { d with contextVar := some x }) false]
  exact := true
  blank := ⟨none, none⟩
  finish := fun d => .ok ⟨d.timeoutSecs.getD none, d.contextVar.getD none⟩

/-- **How settings are read from JSON.** -/
def form : Form Settings := record.form

/-! ## From a file -/

def put (s : Settings) : String × Value → Option Settings
  | (name, .integer n) =>
    if name = "timeout_secs" ∧ s.timeoutSecs = none then some { s with timeoutSecs := some (UInt64.ofNat n) } else none
  | (name, .text t) =>
    if name = "context_var" ∧ s.contextVar = none then some { s with contextVar := some t } else none

/-- **The settings of a file's text**, which has no other lines and no setting twice. -/
def ofText? (text : String) : Option Settings := (lines text).bind fun settings => settings.foldlM put empty

/-- **The settings of a file**, found to make sense. -/
def load (w : World) (path : Bytes) : Except ConfigFault Settings :=
  match w.readText path with
  | .error e => .error (.ofFile path e)
  | .ok text =>
    match ofText? text with
    | none => .error (.badSettings path)
    | some s => s.validate.map fun () => s

/-! ## From the environment -/

def timeoutVariable : String := "RESULTSINK_TIMEOUT_SECS"

def contextVarVariable : String := "RESULTSINK_CONTEXT_VAR"

inductive NaturalFault where
  | empty
  | invalidDigit
  | tooLarge
  deriving DecidableEq, Repr

def NaturalFault.message : NaturalFault → String
  | .empty => "cannot parse integer from empty string"
  | .invalidDigit => "invalid digit found in string"
  | .tooLarge => "number too large to fit in target type"

/-- Reads digits into a number.  The first fault from the left is reported, be it a character that is no digit or a
digit that would make the number too large. -/
def digitsValue : Nat → List Char → Except NaturalFault Nat
  | value, [] => .ok value
  | value, c :: rest =>
    match Text.digitIn? 10 c with
    | none => .error .invalidDigit
    | some d => if value * 10 + d < UInt64.size then digitsValue (value * 10 + d) rest else .error .tooLarge

/-- **A natural number of 64 bits in decimal**, a plus sign before it allowed. -/
def naturalOfText (s : List Char) : Except NaturalFault UInt64 :=
  match s with
  | [] => .error .empty
  | ['+'] => .error .invalidDigit
  | '+' :: rest => (digitsValue 0 rest).map UInt64.ofNat
  | s => (digitsValue 0 s).map UInt64.ofNat

def overridden (w : World) (s : Settings) : Except ConfigFault Settings := do
  let timeoutSecs ←
    match w.text? timeoutVariable with
    | none => .ok s.timeoutSecs
    | some text =>
      ((naturalOfText (Text.trim text.toList)).map some).mapError fun e => .invalidValue timeoutVariable e.message
  let merged : Settings := ⟨timeoutSecs, (w.text? contextVarVariable).or s.contextVar⟩
  merged.validate
  return merged

/-- **The settings of the environment alone.** -/
def ofEnvironment (w : World) : Except ConfigFault Settings := empty.overridden w

/-- **The settings of a file, if one is given, and the environment.** -/
def gather (w : World) (path : Option Bytes) : Except ConfigFault Settings :=
  match path with
  | none => empty.overridden w
  | some path => (load w path).bind (overridden w)

end Settings
end SinkReporter
