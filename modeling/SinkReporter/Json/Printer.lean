import SinkReporter.Json.Value
/-!
# Json.Printer — a value as text

Two layouts with one way of writing the leaves: `compact` puts nothing between the parts, `pretty` gives each part of a
container a line of its own, two spaces deeper than the container.  Members are written in the order in which the value
holds them.
-/
namespace SinkReporter
namespace Json

/-- How a character is written inside a string: only the quote, the backslash and control characters are escaped. -/
def escaped (c : Char) : List Char :=
  if c = '"' then ['\\', '"']
  else if c = '\\' then ['\\', '\\']
  else if c = '\x08' then ['\\', 'b']
  else if c = '\t' then ['\\', 't']
  else if c = '\n' then ['\\', 'n']
  else if c = '\x0c' then ['\\', 'f']
  else if c = '\r' then ['\\', 'r']
  else if c.toNat < 0x20 then
    ['\\', 'u', '0', '0', Nat.digitChar (c.toNat / 16), Nat.digitChar (c.toNat % 16)]
  else [c]

def stringText (s : String) : List Char := '"' :: (s.toList.flatMap escaped ++ ['"'])

def boolText (b : Bool) : List Char := if b then ['t', 'r', 'u', 'e'] else ['f', 'a', 'l', 's', 'e']

mutual
def compactChars : Value → List Char
  | .null => ['n', 'u', 'l', 'l']
  | .bool b => boolText b
  | .number n => n.text.toList
  | .string s => stringText s
  | .array items => '[' :: compactItems true items
  | .object members => '\x7b' :: compactMembers true members

/-- The items of an array and its closing bracket, a comma before each item but the first. -/
def compactItems (first : Bool) : List Value → List Char
  | [] => [']']
  | item :: rest => (if first then [] else [',']) ++ (compactChars item ++ compactItems false rest)

def compactMembers (first : Bool) : List (String × Value) → List Char
  | [] => ['\x7d']
  | (key, value) :: rest =>
    (if first then [] else [',']) ++ (stringText key ++ ':' :: (compactChars value ++ compactMembers false rest))
end

/-- **The text of a value, without space between its parts.** -/
def Value.compact (v : Value) : String := String.ofList (compactChars v)

def newLine (depth : Nat) : List Char := '\n' :: List.replicate (2 * depth) ' '

mutual
def prettyChars (depth : Nat) : Value → List Char
  | .null => ['n', 'u', 'l', 'l']
  | .bool b => boolText b
  | .number n => n.text.toList
  | .string s => stringText s
  | .array items => '[' :: prettyItems depth true items
  | .object members => '\x7b' :: prettyMembers depth true members

/-- The items of an array, each on its line, and the closing bracket, on a line of its own unless there are none. -/
def prettyItems (depth : Nat) (first : Bool) : List Value → List Char
  | [] => (if first then [] else newLine depth) ++ [']']
  | item :: rest =>
    (if first then [] else [',']) ++ newLine (depth + 1) ++ prettyChars (depth + 1) item ++ prettyItems depth false rest

def prettyMembers (depth : Nat) (first : Bool) : List (String × Value) → List Char
  | [] => (if first then [] else newLine depth) ++ ['\x7d']
  | (key, value) :: rest =>
    (if first then [] else [',']) ++ newLine (depth + 1) ++ stringText key ++ ':' :: ' ' ::
      (prettyChars (depth + 1) value ++ prettyMembers depth false rest)
end

/-- **The text of a value, one part a line.** -/
def Value.pretty (v : Value) : String := String.ofList (prettyChars 0 v)

end Json
end SinkReporter
