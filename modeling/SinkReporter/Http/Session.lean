import SinkReporter.Http.Request
import SinkReporter.Base64
import SinkReporter.Text.Blank
/-!
# Http.Session — sending requests over HTTP until the session is released

A request is first prepared: its address and its headers have to be well formed.  Then it is handed over and the clock is
set for the timeout.  What a message can carry is delivered to the sink if it listens at the address, once and in order, and
the sink's answer decides how the send went.  The sink is one whose answers are laid out in advance; after the last of them
it answers that all is well.
-/
namespace SinkReporter
namespace Http

/-! ## Building -/

def isToken (c : Char) : Bool :=
  c.isAlphanum || ['!', '#', '$', '%', '&', '\x27', '*', '+', '-', '.', '^', '_', '\x60', '|', '~'].contains c

/-- A request as it is delivered: what it asks for, its headers with names in lower case, and its body.  Only the order of
headers of one name has a meaning. -/
structure Delivery where
  target : String
  headers : List (String × String)
  body : String
  deriving DecidableEq, Repr

def longestName : Nat := 65535

def buildHeaders : List (String × String) → Except RequestFault (List (String × String))
  | [] => .ok []
  | (name, value) :: rest =>
    if name = "" ∨ !name.toList.all isToken ∨ longestName < name.length then .error .headerName
    else if !value.toList.all Text.isInline then .error .headerValue
    else (buildHeaders rest).map ((String.ofList (name.toList.map Char.toLower), value) :: ·)

def credentialHeaders : Option (String × String) → List (String × String)
  | none => []
  | some (user, password) => [("authorization", "Basic " ++ Base64.encode (Text.bytes (user ++ ":" ++ password)))]

def acceptAnything (headers : List (String × String)) : List (String × String) :=
  if headers.any (·.1 = "accept") then [] else [("accept", "*/*")]

/-! ### Where a body ends -/

def isFraming (name : String) : Bool := name = "content-length" || name = "transfer-encoding"

def valuesIn (headers : List (String × String)) (name : String) : List String :=
  (headers.filter (·.1 = name)).map (·.2)

/-- A list of codings that ends with chunks.  Characters beyond ASCII make it unreadable. -/
def endsChunked (codings : String) : Bool :=
  codings.toList.all (fun c => Text.isInline c && c.toNat < 0x7F) &&
    (Text.trim (Text.cutAtLast ',' codings.toList).2).map Char.toLower = "chunked".toList

def chunkedLast : List String → List String
  | [] => []
  | [codings] => [if endsChunked codings then codings else codings ++ ", chunked"]
  | codings :: rest => codings :: chunkedLast rest

/-- **The headers that say where a body ends.**  A length that a request gives is passed over: it is counted anew.  Codings
that a request gives take the place of the length, if there is a body. -/
def framing (headers : List (String × String)) (body : String) : List (String × String) :=
  let codings := valuesIn headers "transfer-encoding"
  if body = "" ∨ codings = [] then [("content-length", toString (Text.bytes body).length)]
  else (chunkedLast codings).map (("transfer-encoding", ·))

/-! ### The whole request -/

/-- A request whose address and headers are well formed, a user's name and password in the address being a header now. -/
structure Prepared where
  url : Url
  headers : List (String × String)
  body : String

/-- **A request, prepared**: the address has to be one that names a host, and then the headers have to be well formed. -/
def prepare (r : Request) : Except RequestFault Prepared :=
  match Url.parse r.url with
  | .error fault => .error (.address fault)
  | .ok given =>
    if !given.hasHost then .error (.wrongScheme given.text)
    else
      (buildHeaders r.headers).map fun headers =>
        ⟨given.takeCredentials.1, credentialHeaders given.takeCredentials.2 ++ headers, r.body⟩

/-- **What is delivered of a prepared request**, if a message of the web can carry its address. -/
def Prepared.delivery (p : Prepared) : Except RequestFault Delivery :=
  if !p.url.scheme.isWeb then .error (.wrongScheme p.url.text)
  else if !p.url.canBeCarried then .error (.notCarried p.url.text)
  else
    .ok {
      target := p.url.target
      headers := p.headers.filter (!isFraming ·.1) ++ acceptAnything p.headers ++ framing p.headers p.body
      body := p.body }

/-- **A request, built**: where it goes and what is delivered. -/
def build (r : Request) : Except RequestFault (Url × Delivery) :=
  (prepare r).bind fun p => p.delivery.map (p.url, ·)

/-! ## The sink -/

/-- What a sink does with a request it has read: it answers, perhaps breaking off within the body, or it hangs up, or
nothing is heard of it in time. -/
inductive Reply where
  | answer (status : Nat) (body : Bytes) (truncated : Bool)
  | hangUp
  | silence

/-- A sink: where it listens, whether it lets anyone in, the replies it has left and what it was sent. -/
structure Sink where
  address : String
  refuses : Bool
  script : List Reply
  received : List Delivery

/-- The reply after the last one that was laid out. -/
def Reply.fine : Reply := .answer 200 [123, 125] false

def Sink.take (sink : Sink) (d : Delivery) : Reply × Sink :=
  (sink.script.headD .fine, { sink with script := sink.script.tail, received := sink.received ++ [d] })

/-- Pairs of bytes as units of sixteen bits, the first byte being the higher one or not. -/
def units16 (highFirst : Bool) : Bytes → List Nat
  | a :: b :: rest =>
    (if highFirst then a.toNat * 256 + b.toNat else b.toNat * 256 + a.toNat) :: units16 highFirst rest
  | _ => []

/-- The text of units of sixteen bits, U+FFFD standing for each unpaired surrogate.  A byte that is left over at the end
spells nothing, nor does it together with the first half of a pair. -/
def textOfUnits (isOdd : Bool) : List Nat → List Char
  | a :: b :: rest =>
    if 0xD800 ≤ a ∧ a < 0xDC00 ∧ 0xDC00 ≤ b ∧ b < 0xE000 then
      Char.ofNat (0x10000 + (a - 0xD800) * 0x400 + (b - 0xDC00)) :: textOfUnits isOdd rest
    else (if 0xD800 ≤ a ∧ a < 0xE000 then '\uFFFD' else Char.ofNat a) :: textOfUnits isOdd (b :: rest)
  | [a] =>
    if 0xD800 ≤ a ∧ a < 0xDC00 then ['\uFFFD']
    else (if 0xDC00 ≤ a ∧ a < 0xE000 then '\uFFFD' else Char.ofNat a) :: textOfUnits isOdd []
  | [] => if isOdd then ['\uFFFD'] else []

def text16 (highFirst : Bool) (data : Bytes) : String :=
  String.ofList (textOfUnits (data.length % 2 = 1) (units16 highFirst data))

/-- **The text of a body**: UTF-8 unless a byte-order mark says otherwise, the mark itself left out, U+FFFD for what
spells nothing. -/
def bodyText (body : Bytes) : String :=
  match body with
  | 0xEF :: 0xBB :: 0xBF :: rest => Text.ofBytesLossy rest
  | 0xFE :: 0xFF :: rest => text16 true rest
  | 0xFF :: 0xFE :: rest => text16 false rest
  | _ => Text.ofBytesLossy body

/-- A status of three digits that is no mere word on the way.  Changing over to another protocol is a last word, too. -/
def isFinal (status : Nat) : Bool := (200 ≤ status && status < 1000) || status = 101

def isBodiless (status : Nat) : Bool := status = 101 || status = 204 || status = 304

/-- How a reply answers the send of a request to an address.  After a reply that is not final nothing more is heard. -/
def Reply.answered (url : String) : Reply → Except SessionFault Unit
  | .hangUp => .error (.request (.hungUp url))
  | .silence => .error (.request (.timedOut url))
  | .answer status body truncated =>
    if !isFinal status then .error (.request (.hungUp url))
    else if isSuccess status then .ok ()
    else .error (.status status (if truncated || isBodiless status then "" else bodyText body))

/-! ## The session -/

/-- The machine that a session is opened on: what keeps a client from being set up, if anything does, the seconds on its
clock, and whether a request that has been handed over still gets out when the program is aborted. -/
structure Machine where
  obstacle? : Option String
  clock : Nat
  getsOut : Bool

/-- A session, the timeout that it was opened under, its machine and the sink it can reach. -/
structure Session where
  isOpen : Bool
  timeout : Option UInt64
  machine : Machine
  sink : Sink

namespace Session

/-- **Opens a session**, if a client can be set up.  The clock is not asked yet. -/
def connect (s : Session) (timeout : Option UInt64) : Except SessionFault Session :=
  match s.machine.obstacle? with
  | some cause => .error (.request (.noClient cause))
  | none => .ok { s with isOpen := true, timeout }

/-- The clock can be set for the end of the timeout.  It tells seconds in 63 bits. -/
def canWait (s : Session) : Bool := s.timeout.all fun secs => s.machine.clock + secs.toNat < Nat.pow 2 63

def rejection : Except SessionFault Unit → List Event
  | .error (.status code body) => [.rejected code body]
  | _ => []

/-- What comes of a prepared request that is handed over.  What cannot be carried, or finds no sink at its address, goes
nowhere. -/
def exchange (s : Session) (p : Prepared) : Sent Session :=
  match p.delivery with
  | .error cause => ⟨.error (.request cause), [], s⟩
  | .ok delivery =>
    if p.url.scheme = .https ∨ p.url.place ≠ s.sink.address ∨ s.sink.refuses then
      ⟨.error (.request (.refused p.url.text)), [], s⟩
    else
      let (reply, sink) := s.sink.take delivery
      let answer := reply.answered p.url.text
      ⟨answer, rejection answer, { s with sink }⟩

/-- **Sends a request.**  A released session refuses, and what cannot be prepared goes nowhere.  The clock is set when the
request has been handed over. -/
def send (s : Session) (r : Request) : Sent Session :=
  if !s.isOpen then ⟨.error .released, [], s⟩
  else
    match prepare r with
    | .error cause => ⟨.error (.request cause), [], s⟩
    | .ok p =>
      if s.canWait then s.exchange p
      else ⟨.error .clockOverflow, [], if s.machine.getsOut then (s.exchange p).state else s⟩

def release (s : Session) : Session := { s with isOpen := false }

/-- **The transport over HTTP.** -/
def transport : Transport Session := ⟨send, release⟩

/-- **The network of a machine.** -/
def network : Network Session := { transport with connect }

end Session
end Http
end SinkReporter
