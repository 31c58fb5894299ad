import SinkReporter.Text.Quoted
/-!
# Endpoint — where a sink listens and the token it asks for
-/
namespace SinkReporter

/-- Where a sink listens, and the token it asks for. -/
structure Endpoint where
  address : String
  authToken : String
  deriving DecidableEq, Repr

/-- **An endpoint for people to read**: the token is left out. -/
def Endpoint.redacted (e : Endpoint) : String :=
  "SinkEndpoint \x7b address: " ++ Text.quoted e.address ++ ", auth_token: \"<redacted>\" \x7d"

end SinkReporter
