import SinkReporter.Command.Arguments
import SinkReporter.Command.Report
import SinkReporter.ClientOpening
/-!
# Command.Run — what the commands do

Settings are gathered first, whatever the command.  Composing prints a record; posting reports one, if there is a sink,
and is silent when all goes well; the third command tells where reports would go.  Posting opens its session before it
looks at the arguments, and closes it whatever comes of them.
-/
namespace SinkReporter
namespace Command

open Http (Transport Network SessionFault)

/-- How a run ends: the exit code and what it prints. -/
structure Exit where
  code : Nat
  output : String
  errors : String
  deriving DecidableEq, Repr

def Exit.fine (output : String) : Exit := ⟨0, output, ""⟩

def Failure.exit (f : Failure) : Exit := ⟨1, "", f.text⟩

/-- A run that is aborted.  The code is the one by which a shell tells of it. -/
def Exit.aborted (message : String) : Exit := ⟨134, "", message ++ "\n"⟩

/-! ## The arguments about a result -/

def logFailure (path : Bytes) (cause : FileFault) : Failure :=
  ⟨"Failed to read log file: " ++ Text.ofBytesLossy path, [cause.message]⟩

def readLog (w : World) : Option Bytes → Except Failure (Option Bytes)
  | none => .ok none
  | some path =>
    match w.read path with
    | .ok data => .ok (some data)
    | .error cause => .error (logFailure path cause)

def argumentFailure (cause : InvalidArgument) : Failure := ⟨cause.message, []⟩

def jsonTags : Option String → Except Failure (List Tag)
  | none => .ok []
  | some text =>
    match Tag.listOfJson text with
    | .ok tags => .ok tags
    | .error (.json fault) => .error ⟨"--tags-json is not valid JSON", [fault.message]⟩
    | .error (.argument cause) => .error (argumentFailure cause)

def textTags : List String → Except InvalidArgument (List Tag)
  | [] => .ok []
  | text :: rest =>
    match Tag.ofText text with
    | .error e => .error e
    | .ok tag => (textTags rest).map (tag :: ·)

/-- **The tags of the arguments**, those in JSON first; none at all when neither kind is given. -/
def collectTags (a : ResultArguments) : Except Failure (Option (List Tag)) :=
  if a.tags = [] ∧ a.tagsJson = none then .ok none
  else
    match jsonTags a.tagsJson with
    | .error f => .error f
    | .ok first => ((textTags a.tags).map fun more => some (first ++ more)).mapError argumentFailure

/-- **The record of the arguments.** -/
def composeRecord (w : World) (a : ResultArguments) : Except Failure TestResult :=
  match readLog w a.logFile with
  | .error f => .error f
  | .ok log =>
    match collectTags a with
    | .error f => .error f
    | .ok tags => (composeWithLogBytes a.testId a.status a.expected log tags).mapError argumentFailure

/-! ## The commands -/

def composeExit : Except Failure TestResult → Exit
  | .ok r => .fine (r.document.pretty ++ "\n")
  | .error f => f.exit

def timeoutLine (s : Settings) : String :=
  match s.timeoutSecs with
  | some secs => "timeout:    " ++ toString secs.toNat ++ "s\n"
  | none => ""

def sinkLines (name : String) : Except ConfigFault Endpoint → String
  | .ok e =>
    "address:    " ++ e.address ++ "\n" ++
      "auth_token: " ++ (if e.authToken = "" then "missing" else "present") ++ "\n"
  | .error fault => "No ResultSink configured (" ++ name ++ "): " ++ fault.message ++ "\n"

/-- **The exit of telling where reports would go.** -/
def contextExit (w : World) (s : Settings) : Exit :=
  .fine (sinkLines s.contextVariable (Context.tryResolve w s.contextVariable) ++ timeoutLine s)

def skippedExit (testId : String) : Exit := ⟨0, "", "No ResultSink configured; skipping " ++ testId ++ "\n"⟩

/-- What lies behind a fault of the settings: the fault, and that of the file if there is one. -/
def settingsCauses (fault : ConfigFault) : List String :=
  match fault with
  | .unreadable cause => [fault.message, cause.message]
  | _ => [fault.message]

/-- The path of the settings file: the command line's, or else the environment's. -/
def settingsPath (environment : Option Bytes) (i : Invocation) : Option Bytes :=
  i.settings.or environment

def unsettledExit (fault : ConfigFault) : Exit :=
  Failure.exit ⟨"Failed to load ResultSink settings", settingsCauses fault⟩

def unopenedExit (fault : ReportFault) : Exit :=
  Failure.exit ⟨"Failed to open ResultSink session", fault.message :: fault.causes⟩

/-- **The exit after a report.** -/
def afterReport (testId : String) : Except ReportFault Unit → Exit
  | .ok () => .fine ""
  | .error fault => Failure.exit ⟨"Failed to report " ++ testId, fault.message :: fault.causes⟩

def settingsVariable : String := "RESULTSINK_SETTINGS"

def Scope.usage : Scope → String
  | .top => "Usage: resultsink [-s SETTINGS] [-v] post|compose|context ...\n"
  | .context => "Usage: resultsink context [-s SETTINGS] [-v]\n"
  | _ => "Usage: resultsink post|compose [--unexpected] [--log-file FILE] [-t KEY=VALUE]... [--tags-json JSON] " ++
      "TEST_ID STATUS\n"

def Stop.exit : Stop → Exit
  | .usage => ⟨2, "", "error: the arguments are not understood; try --help\n"⟩
  | .version scope => .fine (scope.title ++ " " ++ versionNumber ++ "\n")
  | .help scope => .fine scope.usage

/-! ## Runs -/

/-- What comes of a run: its exit, the events on the way and the state of the network. -/
structure Ended (σ : Type) where
  exit : Exit
  events : List Event
  state : σ

variable {σ : Type}

def reportedEvents (a : ResultArguments) : Except ReportFault Unit → List Event
  | .ok () => [.reported a.testId a.status]
  | .error _ => []

/-- **Reports a record with a client** and closes it, unless the run is aborted in the middle. -/
def report (t : Transport σ) (c : Client) (state : σ) (a : ResultArguments) (r : TestResult) : Ended σ :=
  let sent := c.postRecord t state r
  match sent.answer with
  | .error (.session .clockOverflow) => ⟨.aborted SessionFault.clockOverflow.message, sent.events, sent.state⟩
  | answer =>
    let closed := sent.client.close t sent.state
    ⟨afterReport a.testId answer, sent.events ++ closed.events ++ reportedEvents a answer, closed.state⟩

/-- **Posts with a client.**  Without a sink nothing is looked at.  A client that has no record to report is let go. -/
def postWith (t : Transport σ) (c : Client) (state : σ) (w : World) (a : ResultArguments) : Ended σ :=
  if !c.isConfigured then ⟨skippedExit a.testId, [], state⟩
  else
    match composeRecord w a with
    | .error f =>
      let gone := c.drop t state
      ⟨f.exit, gone.events, gone.state⟩
    | .ok r => report t c state a r

/-- **Posts under settings**: a session is opened first, if they lead to a sink. -/
def post (n : Network σ) (state : σ) (w : World) (s : Settings) (a : ResultArguments) : Ended σ :=
  match Client.openSettings (n.connect state) w s with
  | (.error fault, events) => ⟨unopenedExit fault, events, state⟩
  | (.ok opened, events) =>
    let ended := postWith n.toTransport opened.client (opened.session?.getD state) w a
    { ended with events := events ++ ended.events }

/-- **What comes of a command** over a network. -/
def carryOut (n : Network σ) (state : σ) (w : World) (i : Invocation) : Ended σ :=
  match Settings.gather w (settingsPath (w.value? settingsVariable) i) with
  | .error fault => ⟨unsettledExit fault, [], state⟩
  | .ok s =>
    match i.action with
    | .post a => post n state w s a
    | .compose a => ⟨composeExit (composeRecord w a), [], state⟩
    | .context => ⟨contextExit w s, [], state⟩

/-- **A run of the program** over a network. -/
def run (n : Network σ) (state : σ) (w : World) (arguments : List String) : Ended σ :=
  match parse (w.value? settingsVariable) arguments with
  | .error stop => ⟨stop.exit, [], state⟩
  | .ok invocation => carryOut n state w invocation

end Command
end SinkReporter
