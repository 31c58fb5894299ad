/-!
# Http.Scheme — how an address is looked up
-/
namespace SinkReporter
namespace Http

/-- The schemes of the web and of files are known; of any other only the name is. -/
inductive Scheme where
  | http
  | https
  | ws
  | wss
  | ftp
  | file
  | other (name : String)
  deriving DecidableEq, Repr

namespace Scheme

def ofName (name : String) : Scheme :=
  if name = "http" then .http
  else if name = "https" then .https
  else if name = "ws" then .ws
  else if name = "wss" then .wss
  else if name = "ftp" then .ftp
  else if name = "file" then .file
  else .other name

def name : Scheme → String
  | .http => "http"
  | .https => "https"
  | .ws => "ws"
  | .wss => "wss"
  | .ftp => "ftp"
  | .file => "file"
  | .other name => name

def port? : Scheme → Option Nat
  | .http => some 80
  | .https => some 443
  | .ws => some 80
  | .wss => some 443
  | .ftp => some 21
  | _ => none

def isKnown : Scheme → Bool
  | .other _ => false
  | _ => true

def isWeb : Scheme → Bool
  | .http => true
  | .https => true
  | _ => false

end Scheme
end Http
end SinkReporter
