import SinkReporter.Text.Blank
import SinkReporter.Text.Numeral
/-!
# Settings.Document — the lines of a settings file

A settings file is a list of lines `name = value` with comments and blank lines between them; a value is a whole number
or a string.  Names may be quoted, and strings have four spellings: between double quotes with escapes, between single
quotes without, and either of them over several lines between tripled quotes.  Other kinds of lines and values belong to
no setting, so a file that has one is refused as a whole.
-/
namespace SinkReporter
namespace Settings

inductive Value where
  | text (s : String)
  | integer (n : Nat)
  deriving DecidableEq, Repr

def skipBlank (s : List Char) : List Char := s.dropWhile fun c => c = ' ' || c = '\t'

/-! ## Strings -/

/-- How a string is spelled: its quote, whether it runs over several lines between tripled quotes, and whether it has
escapes. -/
structure Spelling where
  quote : Char
  multiline : Bool
  escapes : Bool

inductive StringState where
  | plain
  | quotes (count : Nat)
  | carriage
  | escape
  | digits (left code : Nat)
  | lineEnd
  | blankLines
  | blankCarriage

/-- What one character does: it moves the reader on and adds characters, or it ends the string, standing inside it or
after it. -/
inductive Move where
  | go (state : StringState) (added : List Char)
  | stop (added : List Char) (inside : Bool)
  | wrong

def Move.after (before : List Char) : Move → Move
  | .go state added => .go state (before ++ added)
  | .stop added inside => .stop (before ++ added) inside
  | .wrong => .wrong

def plainMove (sp : Spelling) (c : Char) : Move :=
  if c = sp.quote then if sp.multiline then .go (.quotes 1) [] else .stop [] true
  else if c = '\\' ∧ sp.escapes then .go .escape []
  else if c = '\n' then if sp.multiline then .go .plain ['\n'] else .wrong
  else if c = '\r' then if sp.multiline then .go .carriage [] else .wrong
  else if Text.isInline c then .go .plain [c]
  else .wrong

def escape? (c : Char) : Option Char :=
  if c = 'b' then some '\x08'
  else if c = 't' then some '\t'
  else if c = 'n' then some '\n'
  else if c = 'f' then some '\x0c'
  else if c = 'r' then some '\r'
  else if c = '"' then some '"'
  else if c = '\\' then some '\\'
  else none

def escapeMove (sp : Spelling) (c : Char) : Move :=
  match escape? c with
  | some e => .go .plain [e]
  | none =>
    if c = 'u' then .go (.digits 3 0) []
    else if c = 'U' then .go (.digits 7 0) []
    else if !sp.multiline then .wrong
    else if c = ' ' ∨ c = '\t' then .go .lineEnd []
    else if c = '\n' then .go .blankLines []
    else if c = '\r' then .go .blankCarriage []
    else .wrong

def digitMove (left code : Nat) (c : Char) : Move :=
  match Text.digitIn? 16 c with
  | none => .wrong
  | some d =>
    match left with
    | left + 1 => .go (.digits left (code * 16 + d)) []
    | 0 =>
      let code := code * 16 + d
      if code < 0xD800 ∨ (0xDFFF < code ∧ code < 0x110000) then .go .plain [Char.ofNat code] else .wrong

/-- **What a character does inside a string.**  Of up to five quotes in a row at the end of a string over several lines,
the last three close it. -/
def move (sp : Spelling) : StringState → Char → Move
  | .plain, c => plainMove sp c
  | .quotes count, c =>
    if c = sp.quote then
      if count = 4 then .stop [c, c] true else .go (.quotes (count + 1)) []
    else if count = 3 then .stop [] false
    else if count = 4 then .stop [sp.quote] false
    else (plainMove sp c).after (List.replicate count sp.quote)
  | .carriage, c => if c = '\n' then .go .plain ['\n'] else .wrong
  | .escape, c => escapeMove sp c
  | .digits left code, c => digitMove left code c
  | .lineEnd, c =>
    if c = ' ' ∨ c = '\t' then .go .lineEnd []
    else if c = '\n' then .go .blankLines []
    else if c = '\r' then .go .blankCarriage []
    else .wrong
  | .blankLines, c =>
    if c = ' ' ∨ c = '\t' ∨ c = '\n' then .go .blankLines []
    else if c = '\r' then .go .blankCarriage []
    else plainMove sp c
  | .blankCarriage, c => if c = '\n' then .go .blankLines [] else .wrong

/-- Reads a string from a state on, `acc` being the characters before it in reverse. -/
def readChars (sp : Spelling) : StringState → List Char → List Char → Option (String × List Char)
  | .quotes 3, acc, [] => some (String.ofList acc.reverse, [])
  | .quotes 4, acc, [] => some (String.ofList (sp.quote :: acc).reverse, [])
  | _, _, [] => none
  | state, acc, c :: rest =>
    match move sp state c with
    | .go state added => readChars sp state (added.reverse ++ acc) rest
    | .stop added inside => some (String.ofList (added.reverse ++ acc).reverse, if inside then rest else c :: rest)
    | .wrong => none

/-- Reads a string over several lines, from after its opening quotes on; a line break right there does not count. -/
def readMultiline (quote : Char) (s : List Char) : Option (String × List Char) :=
  let s := match s with
    | '\n' :: rest => rest
    | '\r' :: '\n' :: rest => rest
    | _ => s
  readChars ⟨quote, true, quote = '"'⟩ .plain [] s

def readLine (quote : Char) (s : List Char) : Option (String × List Char) :=
  readChars ⟨quote, false, quote = '"'⟩ .plain [] s

/-! ## Numbers -/

def takeDigits (base : Nat) : Nat → List Char → Nat × List Char
  | value, '_' :: c :: rest =>
    match Text.digitIn? base c with
    | some d => takeDigits base (value * base + d) rest
    | none => (value, '_' :: c :: rest)
  | value, c :: rest =>
    match Text.digitIn? base c with
    | some d => takeDigits base (value * base + d) rest
    | none => (value, c :: rest)
  | value, [] => (value, [])

def readInBase (base : Nat) : List Char → Option (Nat × List Char)
  | [] => none
  | c :: rest => (Text.digitIn? base c).map fun d => takeDigits base d rest

def readDecimal : List Char → Option (Nat × List Char)
  | '0' :: rest => some (0, rest)
  | s => readInBase 10 s

/-- Reads a whole number of 63 bits.  A negative one belongs to no setting, but zero may have either sign. -/
def readInteger (s : List Char) : Option (Nat × List Char) :=
  let read? := match s with
    | '0' :: 'x' :: rest => readInBase 16 rest
    | '0' :: 'o' :: rest => readInBase 8 rest
    | '0' :: 'b' :: rest => readInBase 2 rest
    | '+' :: rest => readDecimal rest
    | '-' :: rest => (readDecimal rest).filter (·.1 = 0)
    | _ => readDecimal s
  read?.filter (·.1 < UInt64.size / 2)

/-! ## Lines -/

def isBare (c : Char) : Bool := c.isAlphanum || c = '_' || c = '-'

def readName : List Char → Option (String × List Char)
  | '"' :: rest => readLine '"' rest
  | '\x27' :: rest => readLine '\x27' rest
  | s => if (s.takeWhile isBare).isEmpty then none else some (String.ofList (s.takeWhile isBare), s.dropWhile isBare)

def readValue : List Char → Option (Value × List Char)
  | '"' :: '"' :: '"' :: rest => (readMultiline '"' rest).map fun (s, r) => (.text s, r)
  | '\x27' :: '\x27' :: '\x27' :: rest => (readMultiline '\x27' rest).map fun (s, r) => (.text s, r)
  | '"' :: rest => (readLine '"' rest).map fun (s, r) => (.text s, r)
  | '\x27' :: rest => (readLine '\x27' rest).map fun (s, r) => (.text s, r)
  | s => (readInteger s).map fun (n, r) => (.integer n, r)

def readLineEnd (s : List Char) : Option (List Char) :=
  let s := match skipBlank s with
    | '#' :: rest => rest.dropWhile Text.isInline
    | rest => rest
  match s with
  | [] => some []
  | '\n' :: rest => some rest
  | '\r' :: '\n' :: rest => some rest
  | _ => none

def readSetting (s : List Char) : Option ((String × Value) × List Char) :=
  match readName s with
  | none => none
  | some (name, rest) =>
    match skipBlank rest with
    | '=' :: rest => (readValue (skipBlank rest)).map fun (value, r) => ((name, value), r)
    | _ => none

/-- Reads lines, at most `fuel` of them. -/
def readLines : Nat → List Char → Option (List (String × Value))
  | 0, s => if s.isEmpty then some [] else none
  | fuel + 1, s =>
    match skipBlank s with
    | [] => some []
    | c :: rest =>
      if c = '\n' ∨ c = '\r' ∨ c = '#' then (readLineEnd (c :: rest)).bind (readLines fuel)
      else
        match readSetting (c :: rest) with
        | none => none
        | some (setting, rest) => ((readLineEnd rest).bind (readLines fuel)).map (setting :: ·)

/-- **The settings of a file in the order of its lines.**  Each line takes at least one character.  A byte-order mark
may come first. -/
def lines (text : String) : Option (List (String × Value)) :=
  let s := match text.toList with
    | '\uFEFF' :: rest => rest
    | s => s
  readLines (s.length + 1) s

end Settings
end SinkReporter
