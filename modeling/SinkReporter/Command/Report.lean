/-!
# Command.Report — how a failure is told

A failure is a message and the causes behind it, nearest first.  A single cause stands indented under the message,
several are numbered.
-/
namespace SinkReporter
namespace Command

/-- A failure: what went wrong and what lies behind it, nearest first. -/
structure Failure where
  message : String
  causes : List String
  deriving DecidableEq, Repr

def splitLines : List Char → List (List Char)
  | [] => [[]]
  | c :: rest =>
    if c = '\n' then [] :: splitLines rest
    else
      match splitLines rest with
      | [] => [[c]]
      | first :: others => (c :: first) :: others

def indented (first further : String) (text : String) : String :=
  first ++ String.intercalate ("\n" ++ further) ((splitLines text.toList).map String.ofList)

def numberColumn (n : Nat) : String :=
  let digits := toString n
  String.ofList (List.replicate (5 - digits.length) ' ') ++ digits

def numbered : Nat → List String → String
  | _, [] => ""
  | n, cause :: rest => "\n" ++ indented (numberColumn n ++ ": ") "       " cause ++ numbered (n + 1) rest

/-- **A failure as text.** -/
def Failure.text (f : Failure) : String :=
  "Error: " ++ f.message ++
    (match f.causes with
      | [] => ""
      | [cause] => "\n\nCaused by:\n" ++ indented "    " "    " cause
      | causes => "\n\nCaused by:" ++ numbered 0 causes) ++ "\n"

end Command
end SinkReporter
