import SinkReporter.Json.Value
import SinkReporter.Text.Quoted
/-!
# Json.Fault — why a text or a value is not the data that was asked for

A text may break off, be malformed, or be sound so far and not fit.  What does not fit is told apart by cause; the
wording of each cause is `Misfit.message`.
-/
namespace SinkReporter
namespace Json

inductive Found where
  | null
  | boolean (b : Bool)
  | integer (value : Int)
  | double (value : Float)
  | text (s : String)
  | sequence
  | map

inductive Wanted where
  | text
  | boolean
  | natural
  | unit
  | sequence
  | map
  | record (name : String)
  | recordOf (name : String) (count : Nat)
  | textOrMap
  | singleMember
  | fewerItems

/-- Data that does not fit, by cause. -/
inductive Misfit where
  | wrongType (found : Found) (wanted : Wanted)
  | wrongValue (found : Found) (wanted : Wanted)
  | wrongLength (length : Nat) (wanted : Wanted)
  | missingField (name : String)
  | duplicateField (name : String)
  | unknownField (name : String) (known : List String)
  | unknownChoice (name : String) (known : List String)
  | refused (reason : String)

/-- Why reading a text failed. -/
inductive Fault where
  | brokenOff
  | malformed
  | misfit (cause : Misfit)

def Number.found : Number → Found
  | .integer value => .integer value
  | .double value => .double value

def Value.found : Value → Found
  | .null => .null
  | .bool b => .boolean b
  | .number n => n.found
  | .string s => .text s
  | .array _ => .sequence
  | .object _ => .map

def ticked (name : String) : String := "\x60" ++ name ++ "\x60"

def Found.wording : Found → String
  | .null => "null"
  | .boolean b => "boolean " ++ ticked (if b then "true" else "false")
  | .integer value => "integer " ++ ticked (toString value)
  | .double value => "floating point " ++ ticked (doubleText value)
  | .text s => "string " ++ Text.quoted s
  | .sequence => "sequence"
  | .map => "map"

def Wanted.wording : Wanted → String
  | .text => "a string"
  | .boolean => "a boolean"
  | .natural => "u64"
  | .unit => "unit"
  | .sequence => "a sequence"
  | .map => "a map"
  | .record name => "struct " ++ name
  | .recordOf name count =>
    "struct " ++ name ++ " with " ++ toString count ++ (if count = 1 then " element" else " elements")
  | .textOrMap => "string or map"
  | .singleMember => "map with a single key"
  | .fewerItems => "fewer elements in array"

def alternatives : List String → String
  | [] => "nothing"
  | [a] => ticked a
  | [a, b] => ticked a ++ " or " ++ ticked b
  | names => "one of " ++ String.intercalate ", " (names.map ticked)

/-- **The wording of a misfit.** -/
def Misfit.message : Misfit → String
  | .wrongType found wanted => "invalid type: " ++ found.wording ++ ", expected " ++ wanted.wording
  | .wrongValue found wanted => "invalid value: " ++ found.wording ++ ", expected " ++ wanted.wording
  | .wrongLength length wanted => "invalid length " ++ toString length ++ ", expected " ++ wanted.wording
  | .missingField name => "missing field " ++ ticked name
  | .duplicateField name => "duplicate field " ++ ticked name
  | .unknownField name known => "unknown field " ++ ticked name ++ ", expected " ++ alternatives known
  | .unknownChoice name known => "unknown variant " ++ ticked name ++ ", expected " ++ alternatives known
  | .refused reason => reason

def Fault.message : Fault → String
  | .brokenOff => "the text breaks off"
  | .malformed => "the text is malformed"
  | .misfit cause => cause.message

end Json
end SinkReporter
