import SinkReporter.Http.Host
import SinkReporter.Http.Scheme
/-!
# Http.Url — an absolute address

An address names a scheme, perhaps an authority (a user, a host and a port), a path, and perhaps a query and a fragment.
Each part is percent-encoded where needed, the host is normalised, and steps up and down in the path are carried out, so
that of all ways to write an address one is chosen.
-/
namespace SinkReporter
namespace Http

/-- Where an address is looked up: the user's name and password, the host, and the port unless it is the scheme's own.
A name without characters is no host. -/
structure Authority where
  user : String
  password : String
  host : Host
  port : Option Nat
  deriving DecidableEq, Repr

structure Url where
  scheme : Scheme
  authority : Option Authority
  path : String
  query : Option String
  fragment : Option String
  deriving DecidableEq, Repr

inductive UrlFault where
  | noScheme
  | host (fault : HostFault)
  | wrongPort
  deriving DecidableEq, Repr

def UrlFault.message : UrlFault → String
  | .noScheme => "relative URL without a base"
  | .host fault => fault.message
  | .wrongPort => "invalid port number"

/-! ## The authority -/

namespace Authority

/-- Splits at the first colon outside brackets; the second part is missing when there is none. -/
def cutPort : Bool → List Char → List Char × Option (List Char)
  | _, [] => ([], none)
  | isInside, c :: rest =>
    if c = ':' ∧ !isInside then ([], some rest)
    else
      let (host, port) := cutPort (if c = '[' then true else isInside && c ≠ ']') rest
      (c :: host, port)

def portOf (s : List Char) : Except UrlFault (Option Nat) :=
  if s = [] then .ok none
  else
    match (Text.numeral? 10 s).filter (· < 65536) with
    | some port => .ok (some port)
    | none => .error .wrongPort

def hostOf (scheme : Scheme) (s : List Char) : Except UrlFault Host :=
  if !scheme.isKnown then (Host.parseOpaque s).mapError .host
  else if s = [] then .error (.host .empty)
  else (Host.parse s).mapError .host

/-- **The authority of a text**, and what is left of the text after a backslash behind the port.  A user or a port
needs a host, and so does the sign between user and host unless the address ends there. -/
def parse (scheme : Scheme) (isLast : Bool) (s : List Char) : Except UrlFault (Authority × List Char) :=
  let (credentials, place) := Text.cutAtLast '@' s
  let (user, password) := Text.cutAt ':' (credentials.getD [])
  let (hostText, portText) := cutPort false place
  let port := (portText.getD []).takeWhile (· ≠ '\\')
  match hostOf scheme hostText with
  | .error fault => .error fault
  | .ok host =>
    let isBare := credentials = some [] && place = [] && !isLast
    let isWanted := isBare || user ≠ [] || password.getD [] ≠ [] || portText.isSome
    if hostText = [] ∧ isWanted then .error (.host .empty)
    else
      (portOf port).map fun number =>
        ({ user := Percent.encode Percent.inUser user
           password := Percent.encode Percent.inUser (password.getD [])
           host
           port := number.filter fun number => scheme.port? ≠ some number },
          (portText.getD []).drop port.length)

def hasHost (a : Authority) : Bool := a.host ≠ .named ""

def credentialText (a : Authority) : String :=
  if a.user = "" ∧ a.password = "" then ""
  else a.user ++ (if a.password = "" then "" else ":" ++ a.password) ++ "@"

def hostField (a : Authority) : String :=
  a.host.text ++ (match a.port with
    | some port => ":" ++ toString port
    | none => "")

def text (a : Authority) : String := a.credentialText ++ a.hostField

def nowhere : Authority := ⟨"", "", .named "", none⟩

end Authority

/-! ## The path -/

namespace Url

def isSlash (scheme : Scheme) (c : Char) : Bool := c = '/' || (scheme.isKnown && c = '\\')

def isDot (s : List Char) : Bool := ["." , "%2e"].contains (String.ofList (s.map Char.toLower))

def isDotDot (s : List Char) : Bool :=
  ["..", ".%2e", "%2e.", "%2e%2e"].contains (String.ofList (s.map Char.toLower))

def isDrive : List Char → Bool
  | [c, mark] => c.isAlpha && (mark = ':' || mark = '|')
  | _ => false

/-- The steps that are left of a path after a step up.  A drive is never left. -/
def stepUp : List (List Char) → List (List Char)
  | [] => []
  | last :: done => if isDrive last then last :: done else done

/-- Carries out the steps of a path, `done` holding the last step first.  A step that stays or goes up leaves an open
end where it comes last. -/
def walk : List (List Char) → List (List Char) → List (List Char)
  | done, [] => done.reverse
  | done, step :: rest =>
    if isDotDot step then
      if rest.isEmpty then ([] :: stepUp done).reverse else walk (stepUp done) rest
    else if isDot step then
      if rest.isEmpty then ([] :: done).reverse else walk done rest
    else walk (step :: done) rest

/-- The steps of a path carried out.  A slash at its beginning is no step. -/
def stepsOf (scheme : Scheme) (s : List Char) : List (List Char) :=
  let steps := if s.head?.any (isSlash scheme) then s.drop 1 else s
  walk [] (Text.splitWhere (isSlash scheme) steps)

def pathText (steps : List (List Char)) : String :=
  String.join (steps.map fun step => "/" ++ Percent.encode Percent.inPath step)

/-! ## Reading -/

/-- The characters of a text that count: none at either end up to the space, and no line breaks or tabs. -/
def cleaned (s : List Char) : List Char :=
  let low (c : Char) : Bool := c.toNat ≤ 0x20
  let s := ((s.dropWhile low).reverse.dropWhile low).reverse
  s.filter fun c => c ≠ '\n' && c ≠ '\r' && c ≠ '\t'

def schemeOf (s : List Char) : Option (Scheme × List Char) :=
  match Text.cutAt ':' s with
  | (c :: more, some rest) =>
    if c.isAlpha ∧ more.all (fun c => c.isAlphanum || c = '+' || c = '-' || c = '.') then
      some (.ofName (String.ofList ((c :: more).map Char.toLower)), rest)
    else none
  | _ => none

def webParts (scheme : Scheme) (s : List Char) : Except UrlFault (Option Authority × String) :=
  let s := s.dropWhile (isSlash scheme)
  let authority := s.takeWhile fun c => !isSlash scheme c
  (Authority.parse scheme true authority).map fun (a, _) =>
    (some a, pathText (stepsOf scheme (s.drop authority.length)))

def drive (step : List Char) : List Char := step.take 1 ++ [':']

/-- The authority and the path of a file.  The computer itself is no host, and a drive has none. -/
def fileParts (s : List Char) : Except UrlFault (Option Authority × String) :=
  let slash := isSlash .file
  let (hostText, rest) := match s with
    | a :: b :: rest =>
      let host := rest.takeWhile fun c => !slash c
      if slash a ∧ slash b then (if isDrive host then ([], rest) else (host, rest.drop host.length)) else ([], s)
    | _ => ([], s)
  let host := if hostText = [] then .ok (.named "") else Host.parse hostText
  (host.mapError UrlFault.host).map fun host =>
    let steps := stepsOf .file rest
    let isOnDrive := steps.head?.any isDrive
    let isHere := isOnDrive || host = .named "localhost"
    let steps := match steps with
      | first :: more => if isDrive first then drive first :: more else first :: more
      | [] => []
    let steps := steps.dropWhile (· = [])
    (some { Authority.nowhere with host := if isHere then .named "" else host },
      pathText (if steps = [] then [[]] else steps))

/-- The authority and the path of an address whose scheme is not known: a path that does not start with a slash is left
as it is.  `isLast` says that nothing follows the path. -/
def otherParts (scheme : Scheme) (isLast : Bool) (s : List Char) : Except UrlFault (Option Authority × String) :=
  match s with
  | '/' :: '/' :: s =>
    let authority := s.takeWhile fun c => c ≠ '/'
    let rest := s.drop authority.length
    (Authority.parse scheme (isLast && rest = []) authority).map fun (a, left) =>
      let rest := if left = [] then rest else '/' :: left ++ rest
      (some a, if rest = [] then "" else pathText (stepsOf scheme rest))
  | '/' :: _ => .ok (none, pathText (stepsOf scheme s))
  | _ => .ok (none, Percent.encode Percent.isOutside s)

def parts (scheme : Scheme) (isLast : Bool) (s : List Char) : Except UrlFault (Option Authority × String) :=
  match scheme with
  | .other _ => otherParts scheme isLast s
  | .file => fileParts s
  | _ => webParts scheme s

/-- **The address of a text.** -/
def parse (text : String) : Except UrlFault Url :=
  match schemeOf (cleaned text.toList) with
  | none => .error .noScheme
  | some (scheme, rest) =>
    let (beforeFragment, fragment) := Text.cutAt '#' rest
    let (body, query) := Text.cutAt '?' beforeFragment
    (parts scheme (query.isNone && fragment.isNone) body).map fun (authority, path) => {
      scheme
      authority
      path
      query := query.map (Percent.encode (if scheme.isKnown then Percent.inWebQuery else Percent.inQuery))
      fragment := fragment.map (Percent.encode Percent.inFragment) }

/-! ## Writing -/

def target (u : Url) : String :=
  u.path ++ (match u.query with
    | some q => "?" ++ q
    | none => "")

/-- What stands between the scheme and the path.  A path that starts with two slashes must not look like an
authority. -/
def authorityText (u : Url) : String :=
  match u.authority with
  | some a => "//" ++ a.text
  | none => if u.path.startsWith "//" then "/." else ""

/-- **An address in full.** -/
def text (u : Url) : String :=
  u.scheme.name ++ ":" ++ u.authorityText ++ u.target
    ++ (match u.fragment with
      | some f => "#" ++ f
      | none => "")

/-! ## Parts -/

def hasHost (u : Url) : Bool := u.authority.any Authority.hasHost

def host (u : Url) : Host := (u.authority.getD .nowhere).host

def port (u : Url) : Nat := ((u.authority.bind (·.port)).or u.scheme.port?).getD 0

def place (u : Url) : String := u.host.text ++ ":" ++ toString u.port

def hostField (u : Url) : String := (u.authority.getD .nowhere).hostField

def isCarried (c : Char) : Bool :=
  c.isAlphanum || "!$%&\x27()*+,-.:;=@[]_~".toList.contains c

def longest : Nat := 65534

def canBeCarried (u : Url) : Bool :=
  u.authorityText.toList.all (fun c => c = '/' || isCarried c) && (Text.bytes u.text).length ≤ longest

/-- The name and password of an address, and the address without them.  They are left in place when there are none or
when the name spells no text; a password that spells none is dropped. -/
def takeCredentials (u : Url) : Url × Option (String × String) :=
  match u.authority with
  | none => (u, none)
  | some a =>
    match Text.ofBytes? (Percent.decode a.user.toList) with
    | none => (u, none)
    | some user =>
      let password := if a.password = "" then none else Text.ofBytes? (Percent.decode a.password.toList)
      if user = "" ∧ password = none then (u, none)
      else ({ u with authority := some { a with user := "", password := "" } }, some (user, password.getD ""))

end Url
end Http
end SinkReporter
