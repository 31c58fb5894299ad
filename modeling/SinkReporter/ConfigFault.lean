import SinkReporter.World
import SinkReporter.Json.Fault
/-!
# ConfigFault — why the sink or the settings cannot be made out
-/
namespace SinkReporter

inductive ConfigFault where
  | notFound (path : Bytes)
  | unreadable (cause : FileFault)
  | badJson (path : Bytes) (fault : Json.Fault)
  | badSettings (path : Bytes)
  | variableNotSet (name : String)
  | missingField (field : String) (path : Bytes)
  | invalidValue (field reason : String)

namespace ConfigFault

def ofFile (path : Bytes) : FileFault → ConfigFault
  | .notFound => .notFound path
  | cause => .unreadable cause

/-- **The wording of a cause.** -/
def message : ConfigFault → String
  | .notFound path => "Configuration file not found: " ++ Text.ofBytesLossy path
  | .unreadable cause => "Failed to read configuration file: " ++ cause.message
  | .badJson path fault => "Invalid JSON in " ++ Text.ofBytesLossy path ++ ": " ++ fault.message
  | .badSettings path =>
    "Invalid TOML syntax in " ++ Text.ofBytesLossy path ++ ": not a list of known settings"
  | .variableNotSet name => "Environment variable " ++ name ++ " is not set"
  | .missingField field path => "Missing required field '" ++ field ++ "' in " ++ Text.ofBytesLossy path
  | .invalidValue field reason => "Invalid value for '" ++ field ++ "': " ++ reason

end ConfigFault
end SinkReporter
