import SinkReporter.Command.Run
import SinkReporter.Http.Wire
import Std.Async.DNS
import Std.Async.TCP
import Std.Async.Timer
/-!
# Main — the program at the edge of the system

Looks up the variables and the files that a run asks for, exchanges the one message that a run may send, and prints how
the run ends.  What a run asks for, sends and prints is settled elsewhere.
-/
namespace SinkReporter
namespace Program

open Command Http Std.Async

def errorNumber (code : UInt32) : Nat := min code.toNat (0 - code).toNat

def faultOf : IO.Error → FileFault
  | .noFileOrDirectory .. => .notFound
  | .permissionDenied .. => .other "Permission denied (os error 13)"
  | .inappropriateType _ code _ => if errorNumber code = 21 then .isDirectory else .notDirectory
  | .invalidArgument _ code text =>
    if errorNumber code = 36 then .nameTooLong else .other (text ++ " (os error " ++ toString (errorNumber code) ++ ")")
  | cause => .other (toString cause)

structure Known where
  values : List (String × Bytes)
  files : List (Bytes × Except FileFault Bytes)

def Known.world (k : Known) : World where
  value? := World.valueIn k.values
  read path := ((k.files.find? (·.1 = path)).map (·.2)).getD (.error .notFound)

def Known.ask (k : Known) (name : String) : IO Known := do
  match ← IO.getEnv name with
  | some value => return { k with values := (name, Text.bytes value) :: k.values }
  | none => return k

def Known.look (k : Known) : Option Bytes → IO Known
  | none => return k
  | some path => do
    let found ← try
        let data ← IO.FS.readBinFile (Text.ofBytesLossy path)
        pure (Except.ok data.toList)
      catch cause => pure (Except.error (faultOf cause))
    return { k with files := (path, found) :: k.files }

def settingsOf (w : World) (i : Invocation) : Settings :=
  ((Settings.gather w (settingsPath (w.value? settingsVariable) i)).toOption).getD .empty

def Known.survey (k : Known) (i : Invocation) : IO Known := do
  let k ← k.look (settingsPath (k.world.value? settingsVariable) i)
  let name := (settingsOf k.world i).contextVariable
  let k ← k.ask name
  let k ← k.look (k.world.path? name)
  match i.action with
  | .post a | .compose a => k.look a.logFile
  | .context => return k

/-! ## The exchange -/

/-- Everything that comes back on a connection up to its end. -/
partial def receive (socket : TCP.Socket.Client) (sofar : Bytes) : Async Bytes := do
  match ← socket.recv? 65536 with
  | some data => if data.isEmpty then return sofar else receive socket (sofar ++ data.toList)
  | none => return sofar

def connect (port : UInt16) : List Std.Net.IPAddr → Async (Option TCP.Socket.Client)
  | [] => return none
  | address :: others => do
    let socket ← TCP.Socket.Client.mk
    try
      match address with
      | .v4 number => socket.connect (.v4 ⟨number, port⟩)
      | .v6 number => socket.connect (.v6 ⟨number, port⟩)
      return some socket
    catch _ => connect port others

def addresses (host : String) : Async (List Std.Net.IPAddr) := do
  try
    return (← DNS.getAddrInfo host "").toList
  catch _ => return []

/-- Sends a delivery and waits for the reply.  Nothing answers if no connection comes about. -/
def exchange (u : Url) (d : Delivery) : Async (Option Reply) := do
  match ← connect (UInt16.ofNat u.port) (← addresses u.host.lookupName) with
  | none => return none
  | some socket =>
    try
      socket.send (ByteArray.mk (d.wire u).toArray)
      return some (Reply.ofWire (← receive socket []))
    catch _ => return some .hangUp

def late (seconds : Nat) : Async (Option Reply) := do
  sleep (.ofNat (1000 * seconds))
  return some .silence

def defaultTimeout : Nat := 30

def longestTimeout : Nat := 1000000000

/-- The one request that a run sends if its session can be opened, found by running over a transport that records. -/
def asked? (w : World) (i : Invocation) : Option Request :=
  (carryOut Recording.network ⟨[], [], 0⟩ w i).state.requests.head?

/-- The session of a run, not opened yet: the sink answers as it has answered the run's one message. -/
def contact (w : World) (i : Invocation) : IO Session := do
  let clock := (← IO.monoMsNow) / 1000
  let timeout := (settingsOf w i).timeoutSecs
  let idle : Session := ⟨false, timeout, ⟨none, clock, false⟩, ⟨"", true, [], []⟩⟩
  match (asked? w i).map Http.build with
  | some (.ok (url, delivery)) =>
    if !idle.canWait then return idle
    let limit := min ((timeout.map UInt64.toNat).getD defaultTimeout) longestTimeout
    let reply ← (Async.race (exchange url delivery) (late limit)).block
    return { idle with sink := ⟨url.place, reply.isNone, reply.toList, []⟩ }
  | _ => return idle

/-! ## The run -/

def isTold (verbose : Bool) (e : Event) : Bool := verbose || e.level = .warn

def finish (exit : Exit) : IO UInt32 := do
  IO.print exit.output
  IO.eprint exit.errors
  return UInt32.ofNat exit.code

def perform (arguments : List String) : IO UInt32 := do
  let known : Known := ⟨[], []⟩
  let known ← [settingsVariable, Settings.timeoutVariable, Settings.contextVarVariable].foldlM Known.ask known
  match parse (known.world.value? settingsVariable) arguments with
  | .error stop => finish stop.exit
  | .ok invocation =>
    let world := (← known.survey invocation).world
    let ended := run Session.network (← contact world invocation) world arguments
    for e in ended.events do
      if isTold invocation.verbose e then IO.eprintln e.line
    finish ended.exit

end Program
end SinkReporter

def main (arguments : List String) : IO UInt32 := SinkReporter.Program.perform arguments
