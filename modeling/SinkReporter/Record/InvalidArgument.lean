import SinkReporter.Base64
import SinkReporter.Json.Printer
/-!
# Record.InvalidArgument — why something is no record, or no tag
-/
namespace SinkReporter

inductive InvalidArgument where
  | unknownStatus (text : String)
  | emptyTestId
  | otherName (name testId : String)
  | otherSummary (summary : String)
  | otherArtifacts
  | undecodableLog (fault : Base64.Fault)
  | halfALog
  | tagWithoutEquals (text : String)
  | tagsNoList (found : Json.Value)
  | tagNoPair (index : Nat) (found : Json.Value)
  | tagLength (index : Nat) (length : Nat)
  | tagNoStrings (index : Nat) (found : Json.Value)

namespace InvalidArgument

def reason : InvalidArgument → String
  | .unknownStatus text => "invalid test status '" ++ text ++ "'"
  | .emptyTestId => "test id must not be empty"
  | .otherName name testId => "testMetadata.name '" ++ name ++ "' does not match testId '" ++ testId ++ "'"
  | .otherSummary summary => "unexpected summaryHtml '" ++ summary ++ "'"
  | .otherArtifacts => "artifacts must hold exactly the 'Test Log' artifact"
  | .undecodableLog fault => "test log is not valid base64: " ++ fault.message
  | .halfALog => "summaryHtml and artifacts must be both present or both absent"
  | .tagWithoutEquals text => "tag '" ++ text ++ "' is not in key=value form"
  | .tagsNoList found => "tags must be a list of pairs, got " ++ found.compact
  | .tagNoPair index found => "tag " ++ toString index ++ " must be a pair, got " ++ found.compact
  | .tagLength index length =>
    "tag " ++ toString index ++ " must have exactly 2 elements, got " ++ toString length
  | .tagNoStrings index found => "tag " ++ toString index ++ " must contain two strings, got " ++ found.compact

/-- **The wording of the cause.** -/
def message (e : InvalidArgument) : String := "Invalid argument: " ++ e.reason

end InvalidArgument
end SinkReporter
