import SinkReporter.Text.Utf8
/-!
# Command.Arguments — what the command line asks for

Options may stand anywhere, before the command and after it; those for settings and for a talkative run are known to
every command, and what is said after the command counts for more.  Each option comes at most once on its side of the
command, but tags may come often.  The arguments are gone through from left to right: the first fault ends the run,
and so does the first request for help or for the version.  A value that is an argument of its own is held back: it
is looked at when the next option or word comes, or at the end of its side of the command.  The command's name is no
such word, so what was held back before it is looked at last of all.
-/
namespace SinkReporter
namespace Command

inductive Switch where
  | settings
  | verbose
  | unexpected
  | logFile
  | tag
  | tagsJson
  | help
  | version
  deriving DecidableEq, Repr

def Switch.hasValue : Switch → Bool
  | .settings | .logFile | .tag | .tagsJson => true
  | _ => false

/-- The part of the command line that is being gone through: before the command, or after it. -/
inductive Scope where
  | top
  | post
  | compose
  | context
  deriving DecidableEq, Repr

def Scope.isAboutResult : Scope → Bool
  | .post | .compose => true
  | _ => false

def Scope.title : Scope → String
  | .top => "resultsink"
  | .post => "resultsink-post"
  | .compose => "resultsink-compose"
  | .context => "resultsink-context"

def versionNumber : String := "0.1.0"

def Scope.long? (scope : Scope) (name : String) : Option Switch :=
  if name = "settings" then some .settings
  else if name = "verbose" then some .verbose
  else if name = "help" then some .help
  else if name = "version" then some .version
  else if !scope.isAboutResult then none
  else if name = "unexpected" then some .unexpected
  else if name = "log-file" then some .logFile
  else if name = "tag" then some .tag
  else if name = "tags-json" then some .tagsJson
  else none

def Scope.short? (scope : Scope) (letter : Char) : Option Switch :=
  if letter = 's' then some .settings
  else if letter = 'v' then some .verbose
  else if letter = 'h' then some .help
  else if letter = 'V' then some .version
  else if scope.isAboutResult ∧ letter = 't' then some .tag
  else none

inductive Stop where
  | usage
  | help (scope : Scope)
  | version (scope : Scope)
  deriving DecidableEq, Repr

/-- What has been given in one part of the command line.  `held` is an option with a value that has not been looked
at. -/
structure Given where
  held : Option (Switch × String) := none
  settings : Option String := none
  verbose : Bool := false
  unexpected : Bool := false
  logFile : Option String := none
  tags : List String := []
  tagsJson : Option String := none
  words : List String := []

def onePath (old : Option String) (value : String) : Except Stop String :=
  if old.isSome ∨ value = "" then .error .usage else .ok value

def Given.put (g : Given) (option : Switch) (value : String) : Except Stop Given :=
  match option with
  | .settings => (onePath g.settings value).map fun path => { g with settings := some path }
  | .logFile => (onePath g.logFile value).map fun path => { g with logFile := some path }
  | .tag => .ok { g with tags := g.tags ++ [value] }
  | .tagsJson => if g.tagsJson.isSome then .error .usage else .ok { g with tagsJson := some value }
  | _ => .error .usage

def Given.settle (g : Given) : Except Stop Given :=
  match g.held with
  | none => .ok g
  | some (option, value) => Given.put { g with held := none } option value

def Given.set (g : Given) (scope : Scope) (option : Switch) : Except Stop Given :=
  match option with
  | .verbose => if g.verbose then .error .usage else .ok { g with verbose := true }
  | .unexpected => if g.unexpected then .error .usage else .ok { g with unexpected := true }
  | .help => .error (.help scope)
  | .version => .error (.version scope)
  | _ => .error .usage

/-- An option's letters: those without a value one after the other, up to one with a value, which the rest of the
argument is, if there is any.  Answers with the option that still waits for its value. -/
def Given.letters (scope : Scope) : Given → List Char → Except Stop (Given × Option Switch)
  | g, [] => .ok (g, none)
  | g, letter :: rest =>
    match scope.short? letter with
    | none => .error .usage
    | some option =>
      if option.hasValue then
        g.settle.bind fun g =>
          match rest with
          | [] => .ok (g, some option)
          | '=' :: value => (g.put option (String.ofList value)).map fun g => (g, none)
          | value => (g.put option (String.ofList value)).map fun g => (g, none)
      else (g.settle.bind (·.set scope option)).bind fun g => Given.letters scope g rest

def Given.longOption (scope : Scope) (g : Given) (text : List Char) : Except Stop (Given × Option Switch) :=
  let name := text.takeWhile (· ≠ '=')
  let value? := match text.drop name.length with
    | '=' :: value => some (String.ofList value)
    | _ => none
  match scope.long? (String.ofList name), value? with
  | none, _ => .error .usage
  | some option, some value =>
    if option.hasValue then (g.settle.bind (·.put option value)).map fun g => (g, none) else .error .usage
  | some option, none =>
    g.settle.bind fun g =>
      if option.hasValue then .ok (g, some option) else (g.set scope option).map fun g => (g, none)

inductive Shape where
  | word
  | endOfOptions
  | long (text : List Char)
  | letters (text : List Char)

def Shape.of (argument : String) : Shape :=
  match argument.toList with
  | ['-', '-'] => .endOfOptions
  | '-' :: '-' :: text => .long text
  | '-' :: c :: rest => .letters (c :: rest)
  | _ => .word

/-- Goes through the arguments after the command.  `waiting` is an option that waits for its value, and `onlyWords` says
that the end of the options has been seen. -/
def Given.collect (scope : Scope) : Given → Option Switch → Bool → List String → Except Stop Given
  | g, none, _, [] => g.settle
  | _, some _, _, [] => .error .usage
  | g, waiting, onlyWords, argument :: rest =>
    match waiting, if onlyWords then Shape.word else Shape.of argument with
    | some option, .word => Given.collect scope { g with held := some (option, argument) } none false rest
    | some _, _ => .error .usage
    | none, .endOfOptions => Given.collect scope g none true rest
    | none, .long text =>
      (g.longOption scope text).bind fun (g, waiting) => Given.collect scope g waiting false rest
    | none, .letters text =>
      (g.letters scope text).bind fun (g, waiting) => Given.collect scope g waiting false rest
    | none, .word =>
      if scope.isAboutResult ∧ g.words.length < 2 then
        g.settle.bind fun g => Given.collect scope { g with words := g.words ++ [argument] } none onlyWords rest
      else .error .usage

def Scope.ofName? (name : String) : Option Scope :=
  if name = "post" ∨ name = "p" then some .post
  else if name = "compose" then some .compose
  else if name = "context" then some .context
  else none

def helpFor : List String → Stop
  | [] => .help .top
  | name :: rest =>
    match Scope.ofName? name with
    | some scope => if rest.isEmpty then .help scope else .usage
    | none => if name = "help" ∧ rest.isEmpty then .help .top else .usage

def Given.collectTop : Given → Option Switch → List String → Except Stop (Given × Scope × Given)
  | _, _, [] => .error .usage
  | g, waiting, argument :: rest =>
    match waiting, Shape.of argument with
    | some option, .word => Given.collectTop { g with held := some (option, argument) } none rest
    | some _, _ => .error .usage
    | none, .endOfOptions => .error .usage
    | none, .long text => (g.longOption .top text).bind fun (g, waiting) => Given.collectTop g waiting rest
    | none, .letters text => (g.letters .top text).bind fun (g, waiting) => Given.collectTop g waiting rest
    | none, .word =>
      match Scope.ofName? argument with
      | some scope =>
        (Given.collect scope {} none false rest).bind fun after => g.settle.map fun before => (before, scope, after)
      | none => .error (if argument = "help" then helpFor rest else .usage)

/-! ## What is asked for -/

/-- What is said about one result. -/
structure ResultArguments where
  testId : String
  status : String
  expected : Bool
  logFile : Option Bytes
  tags : List String
  tagsJson : Option String
  deriving DecidableEq, Repr

inductive Action where
  | post (result : ResultArguments)
  | compose (result : ResultArguments)
  | context
  deriving DecidableEq, Repr

/-- A command, the path of its settings file if one is named on the command line, and whether the run is talkative. -/
structure Invocation where
  action : Action
  settings : Option Bytes
  verbose : Bool
  deriving DecidableEq, Repr

def Given.result (g : Given) : Except Stop ResultArguments :=
  match g.words with
  | [testId, status] => .ok {
      testId
      status
      expected := !g.unexpected
      logFile := g.logFile.map Text.bytes
      tags := g.tags
      tagsJson := g.tagsJson }
  | _ => .error .usage

def Given.action (g : Given) : Scope → Except Stop Action
  | .post => g.result.map .post
  | .compose => g.result.map .compose
  | .context => .ok .context
  | .top => .error .usage

/-- The environment's settings path is empty and would be needed on a side of the command that names none. -/
def emptyPathNeeded (environment : Option Bytes) (top after : Given) : Bool :=
  environment = some [] && (top.settings.isNone || after.settings.isNone)

/-- **What the arguments ask for.**  `environment` is the settings path that the environment names. -/
def parse (environment : Option Bytes) (arguments : List String) : Except Stop Invocation :=
  match Given.collectTop {} none arguments with
  | .error stop => .error stop
  | .ok (top, scope, after) =>
    match after.action scope with
    | .error stop => .error stop
    | .ok action =>
      if emptyPathNeeded environment top after then .error .usage
      else
        let settings := (after.settings.or top.settings).map Text.bytes
        .ok { action, settings, verbose := top.verbose || after.verbose }

end Command
end SinkReporter
