import SinkReporter.Json.Fault
import SinkReporter.Text.Numeral
/-!
# Json.Lexer — the leaves of a JSON text

White space, the three literal names, numbers and strings.  Each reader takes the characters from where its leaf starts
and answers with what was read and the characters after it.  Strings and numbers have a second reader, which passes over
them without asking what they stand for: it accepts unpaired surrogates and numbers of any size.
-/
namespace SinkReporter
namespace Json

abbrev Reading (α : Type) := Except Fault (α × List Char)

def isSpace (c : Char) : Bool := c = ' ' || c = '\n' || c = '\t' || c = '\r'

def skipSpace (s : List Char) : List Char := s.dropWhile isSpace

def expect : List Char → List Char → Except Fault (List Char)
  | [], s => .ok s
  | _ :: _, [] => .error .brokenOff
  | c :: word, d :: s => if c = d then expect word s else .error .malformed

def expectColon (s : List Char) : Except Fault (List Char) :=
  match skipSpace s with
  | [] => .error .brokenOff
  | c :: rest => if c = ':' then .ok rest else .error .malformed

/-! ## Numbers -/

def digit? (c : Char) : Option Nat :=
  if '0' ≤ c ∧ c ≤ '9' then some (c.toNat - '0'.toNat) else none

def skipDigits (s : List Char) : List Char := s.dropWhile fun c => (digit? c).isSome

/-- Takes digits into a number as long as it stays below `limit`; a digit that would not fit is left standing.  Answers
with the number, how many digits it took and the rest. -/
def takeDigits (limit : Nat) : Nat → Nat → List Char → Nat × Nat × List Char
  | value, count, [] => (value, count, [])
  | value, count, c :: rest =>
    match digit? c with
    | some d => if value * 10 + d < limit then takeDigits limit (value * 10 + d) (count + 1) rest
      else (value, count, c :: rest)
    | none => (value, count, c :: rest)

def finishDouble (negative : Bool) (significand : Nat) (exponent : Int) (rest : List Char) : Reading Number :=
  match scaled significand exponent with
  | some x => .ok (.double (if negative then -x else x), rest)
  | none => .error .malformed

/-- Reads what follows the exponent mark.  An exponent of 32 bits or more is out of range, unless it makes the number
zero. -/
def readExponent (negative : Bool) (significand : Nat) (start : Int) (s : List Char) : Reading Number :=
  let (down, s) := match s with
    | '+' :: rest => (false, rest)
    | '-' :: rest => (true, rest)
    | _ => (false, s)
  match s with
  | [] => .error .brokenOff
  | c :: rest =>
    match digit? c with
    | none => .error .malformed
    | some d =>
      let (power, _, rest) := takeDigits (UInt32.size / 2) d 1 rest
      if rest.head?.any fun c => (digit? c).isSome then
        if significand ≠ 0 ∧ !down then .error .malformed
        else .ok (.double (if negative then -0.0 else 0.0), skipDigits rest)
      else finishDouble negative significand (if down then start - power else start + power) rest

def readTail (negative : Bool) (significand : Nat) (exponent : Int) (s : List Char) : Reading Number :=
  match s with
  | c :: rest =>
    if c = 'e' ∨ c = 'E' then readExponent negative significand exponent rest
    else finishDouble negative significand exponent s
  | [] => finishDouble negative significand exponent s

/-- Reads what follows the decimal point.  Digits beyond 64 bits of significand are dropped. -/
def readFraction (negative : Bool) (significand : Nat) (exponent : Int) (s : List Char) : Reading Number :=
  let (value, count, rest) := takeDigits UInt64.size significand 0 s
  if rest.head?.any fun c => (digit? c).isSome then
    readTail negative value (exponent - count) (skipDigits rest)
  else if count = 0 then
    match rest with
    | [] => .error .brokenOff
    | _ :: _ => .error .malformed
  else readTail negative value (exponent - count) rest

/-- Reads what follows the whole part of a number, `dropped` digits of which did not fit into 64 bits. -/
def readAfterWhole (negative : Bool) (significand dropped : Nat) (s : List Char) : Reading Number :=
  match s with
  | '.' :: rest => readFraction negative significand dropped rest
  | 'e' :: rest => readExponent negative significand dropped rest
  | 'E' :: rest => readExponent negative significand dropped rest
  | _ =>
    if dropped ≠ 0 then finishDouble negative significand dropped s
    else if !negative then .ok (.integer significand, s)
    else if significand = 0 ∨ UInt64.size / 2 < significand then finishDouble true significand 0 s
    else .ok (.integer (-significand), s)

def readWhole (negative : Bool) (s : List Char) : Reading Number :=
  match s with
  | [] => .error .brokenOff
  | c :: rest =>
    match digit? c with
    | none => .error .malformed
    | some 0 => if rest.head?.any fun c => (digit? c).isSome then .error .malformed
      else readAfterWhole negative 0 0 rest
    | some d =>
      let (value, _, rest) := takeDigits UInt64.size d 1 rest
      let after := skipDigits rest
      readAfterWhole negative value (rest.length - after.length) after

/-- **Reads a number**, from its sign or first digit on. -/
def readNumber (s : List Char) : Reading Number :=
  match s with
  | '-' :: rest => readWhole true rest
  | _ => readWhole false s

def skipExponent (s : List Char) : Except Fault (List Char) :=
  let s := match s with
    | '+' :: rest => rest
    | '-' :: rest => rest
    | _ => s
  match s with
  | [] => .error .malformed
  | c :: rest => if (digit? c).isSome then .ok (skipDigits rest) else .error .malformed

def skipTail (s : List Char) : Except Fault (List Char) :=
  match s with
  | 'e' :: rest => skipExponent rest
  | 'E' :: rest => skipExponent rest
  | _ => .ok s

/-- **Passes over a number**, from its sign or first digit on. -/
def skipNumber (s : List Char) : Except Fault (List Char) :=
  let s := match s with
    | '-' :: rest => rest
    | _ => s
  match s with
  | [] => .error .malformed
  | c :: rest =>
    match digit? c with
    | none => .error .malformed
    | some d =>
      if d = 0 ∧ rest.head?.any fun c => (digit? c).isSome then .error .malformed
      else
        match skipDigits rest with
        | '.' :: after =>
          if after.head?.any fun c => (digit? c).isSome then skipTail (skipDigits after) else .error .malformed
        | after => skipTail after

/-! ## Strings -/

def escape? (c : Char) : Option Char :=
  if c = '"' then some '"'
  else if c = '\\' then some '\\'
  else if c = '/' then some '/'
  else if c = 'b' then some '\x08'
  else if c = 'f' then some '\x0c'
  else if c = 'n' then some '\n'
  else if c = 'r' then some '\r'
  else if c = 't' then some '\t'
  else none

def fourBytes (s : List Char) : Bool := 4 ≤ (s.take 4).foldr (fun c size => c.utf8Size + size) 0

/-- Where a reader stands inside a string: between characters, after a backslash, within the digits of an escape, or
after one that is the first half of a pair. -/
inductive StringState where
  | plain
  | escape
  | digits (left : Nat) (code : Nat) (high : Option Nat)
  | afterHigh (high : Nat)
  | afterHighEscape (high : Nat)

inductive Unit16 where
  | char (c : Char)
  | high (code : Nat)
  | wrong

/-- Joins four digits to a character, alone or with the first half of a pair before them. -/
def unit16 (code : Nat) : Option Nat → Unit16
  | none =>
    if 0xDC00 ≤ code ∧ code ≤ 0xDFFF then .wrong
    else if 0xD800 ≤ code ∧ code ≤ 0xDBFF then .high code
    else .char (Char.ofNat code)
  | some high =>
    if 0xDC00 ≤ code ∧ code ≤ 0xDFFF then .char (Char.ofNat (0x10000 + (high - 0xD800) * 0x400 + (code - 0xDC00)))
    else .wrong

/-- Reads a string from a state on, `acc` being the characters before it in reverse. -/
def readChars : StringState → List Char → List Char → Reading String
  | _, _, [] => .error .brokenOff
  | .plain, acc, c :: rest =>
    if c = '"' then .ok (String.ofList acc.reverse, rest)
    else if c = '\\' then readChars .escape acc rest
    else if c.toNat < 0x20 then .error .malformed
    else readChars .plain (c :: acc) rest
  | .escape, acc, c :: rest =>
    match escape? c with
    | some e => readChars .plain (e :: acc) rest
    | none =>
      if c = 'u' then
        if fourBytes rest then readChars (.digits 3 0 none) acc rest else .error .brokenOff
      else .error .malformed
  | .digits left code high, acc, c :: rest =>
    match Text.hex? c with
    | none => .error .malformed
    | some d =>
      match left with
      | left + 1 => readChars (.digits left (code * 16 + d) high) acc rest
      | 0 =>
        match unit16 (code * 16 + d) high with
        | .char e => readChars .plain (e :: acc) rest
        | .high half => readChars (.afterHigh half) acc rest
        | .wrong => .error .malformed
  | .afterHigh high, acc, c :: rest =>
    if c = '\\' then readChars (.afterHighEscape high) acc rest else .error .malformed
  | .afterHighEscape high, acc, c :: rest =>
    if c = 'u' then
      if fourBytes rest then readChars (.digits 3 0 (some high)) acc rest else .error .brokenOff
    else .error .malformed

/-- **Reads a string**, from after its opening quote on. -/
def readString (s : List Char) : Reading String := readChars .plain [] s

/-- Where a reader that passes over a string stands: between characters, after a backslash, or within the digits of an
escape. -/
inductive SkipState where
  | plain
  | escape
  | digits (left : Nat)

def skipChars : SkipState → List Char → Except Fault (List Char)
  | _, [] => .error .brokenOff
  | .plain, c :: rest =>
    if c = '"' then .ok rest
    else if c = '\\' then skipChars .escape rest
    else if c.toNat < 0x20 then .error .malformed
    else skipChars .plain rest
  | .escape, c :: rest =>
    match escape? c with
    | some _ => skipChars .plain rest
    | none =>
      if c = 'u' then
        if fourBytes rest then skipChars (.digits 3) rest else .error .brokenOff
      else .error .malformed
  | .digits left, c :: rest =>
    match Text.hex? c with
    | none => .error .malformed
    | some _ =>
      match left with
      | left + 1 => skipChars (.digits left) rest
      | 0 => skipChars .plain rest

/-- **Passes over a string**, from after its opening quote on. -/
def skipString (s : List Char) : Except Fault (List Char) := skipChars .plain s

end Json
end SinkReporter
