import SinkReporter.Base64
import SinkReporter.Json.Record
/-!
# Record.Artifact — bytes carried inside a result
-/
namespace SinkReporter

open Json (Value Form)

/-- Bytes carried inside a result, as base64 text. -/
structure Artifact where
  contents : String
  deriving DecidableEq, Repr

namespace Artifact

def ofBytes (data : Bytes) : Artifact := ⟨Base64.encode data⟩

def bytes (artifact : Artifact) : Except Base64.Fault Bytes := Base64.decode artifact.contents

def document (artifact : Artifact) : Value := .object [("contents", .string artifact.contents)]

/-- How an artifact is read: an object with the one member, or an array of the one string. -/
def form : Form Artifact := (Json.single "Artifact" "contents" Artifact.mk).form

end Artifact
end SinkReporter
