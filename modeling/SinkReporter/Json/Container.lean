import SinkReporter.Json.Lexer
/-!
# Json.Container — the parts of an array or an object, one after the other

Between two items stands one comma, none before the closing bracket; the name of a member is a string.  The two loops
carry a state through the parts of a container, and what a part is they leave to the step they are given.
-/
namespace SinkReporter
namespace Json

inductive Next where
  | part (s : List Char)
  | done (s : List Char)

/-- Looks for the next item of an array: `first` says that none has been read yet. -/
def nextItem (first : Bool) (s : List Char) : Except Fault Next :=
  match skipSpace s with
  | [] => .error .brokenOff
  | c :: rest =>
    if c = ']' then .ok (.done rest)
    else if first then .ok (.part (c :: rest))
    else if c = ',' then
      match skipSpace rest with
      | [] => .error .brokenOff
      | d :: after => if d = ']' then .error .malformed else .ok (.part (d :: after))
    else .error .malformed

def closeItems (s : List Char) : Except Fault (List Char) :=
  match skipSpace s with
  | [] => .error .brokenOff
  | c :: rest => if c = ']' then .ok rest else .error .malformed

/-- Looks for the next member of an object and answers with the characters after the quote that opens its name. -/
def nextMember (first : Bool) (s : List Char) : Except Fault Next :=
  match skipSpace s with
  | [] => .error .brokenOff
  | c :: rest =>
    if c = '\x7d' then .ok (.done rest)
    else if first then
      if c = '"' then .ok (.part rest) else .error .malformed
    else if c = ',' then
      match skipSpace rest with
      | [] => .error .brokenOff
      | d :: after => if d = '"' then .ok (.part after) else .error .malformed
    else .error .malformed

/-- Carries a state through the items of an array, at most `fuel` of them. -/
def foldItems {σ : Type} (step : σ → List Char → Reading σ) : Nat → Bool → σ → List Char → Reading σ
  | 0, _, _, _ => .error .malformed
  | fuel + 1, first, state, s =>
    match nextItem first s with
    | .error e => .error e
    | .ok (.done rest) => .ok (state, rest)
    | .ok (.part rest) =>
      match step state rest with
      | .error e => .error e
      | .ok (state, rest) => foldItems step fuel false state rest

/-- Carries a state through the members of an object, at most `fuel` of them.  The step is given the name of a member
and the characters after it, from the colon on. -/
def foldMembers {σ : Type} (step : String → σ → List Char → Reading σ) : Nat → Bool → σ → List Char → Reading σ
  | 0, _, _, _ => .error .malformed
  | fuel + 1, first, state, s =>
    match nextMember first s with
    | .error e => .error e
    | .ok (.done rest) => .ok (state, rest)
    | .ok (.part rest) =>
      match readString rest with
      | .error e => .error e
      | .ok (key, rest) =>
        match step key state rest with
        | .error e => .error e
        | .ok (state, rest) => foldMembers step fuel false state rest

/-- Carries a state through an array, from after its opening bracket on.  Each item takes at least one character, so
there are at most as many as characters. -/
def readItems {σ : Type} (step : σ → List Char → Reading σ) (state : σ) (s : List Char) : Reading σ :=
  foldItems step (s.length + 1) true state s

def readMembers {σ : Type} (step : String → σ → List Char → Reading σ) (state : σ) (s : List Char) : Reading σ :=
  foldMembers step (s.length + 1) true state s

end Json
end SinkReporter
