import SinkReporter.Text.Utf8
/-!
# Base64 — bytes in the standard alphabet, padded

Three bytes are four symbols; what is left at the end is two or three symbols and padding up to four.  Reading is
strict: it asks for the padding, for no more of it, and for unused low bits to be zero, so it accepts what writing
yields and nothing else.
-/
namespace SinkReporter
namespace Base64

def padByte : UInt8 := 61

def symbol (n : Nat) : UInt8 :=
  if n < 26 then UInt8.ofNat (65 + n)
  else if n < 52 then UInt8.ofNat (97 + (n - 26))
  else if n < 62 then UInt8.ofNat (48 + (n - 52))
  else if n = 62 then 43
  else 47

def sextet? (b : UInt8) : Option Nat :=
  let n := b.toNat
  if 65 ≤ n ∧ n ≤ 90 then some (n - 65)
  else if 97 ≤ n ∧ n ≤ 122 then some (n - 97 + 26)
  else if 48 ≤ n ∧ n ≤ 57 then some (n - 48 + 52)
  else if n = 43 then some 62
  else if n = 47 then some 63
  else none

def symbols : Bytes → Bytes
  | a :: b :: c :: rest =>
    symbol (a.toNat / 4) :: symbol (a.toNat % 4 * 16 + b.toNat / 16) ::
      symbol (b.toNat % 16 * 4 + c.toNat / 64) :: symbol (c.toNat % 64) :: symbols rest
  | [a, b] =>
    [symbol (a.toNat / 4), symbol (a.toNat % 4 * 16 + b.toNat / 16), symbol (b.toNat % 16 * 4), padByte]
  | [a] => [symbol (a.toNat / 4), symbol (a.toNat % 4 * 16), padByte, padByte]
  | [] => []

/-- **The text of bytes.** -/
def encode (data : Bytes) : String := String.ofList ((symbols data).map fun b => Char.ofNat b.toNat)

/-- Why a text is not the text of bytes; offsets count bytes. -/
inductive Fault where
  | wrongByte (offset : Nat) (byte : UInt8)
  | wrongLength (length : Nat)
  | wrongLastSymbol (offset : Nat) (byte : UInt8)
  | wrongPadding
  deriving DecidableEq, Repr

def Fault.message : Fault → String
  | .wrongByte offset byte => "Invalid symbol " ++ toString byte.toNat ++ ", offset " ++ toString offset ++ "."
  | .wrongLength length => "Invalid input length: " ++ toString length
  | .wrongLastSymbol offset byte =>
    "Invalid last symbol " ++ toString byte.toNat ++ ", offset " ++ toString offset ++ "."
  | .wrongPadding => "Invalid padding"

/-- The numbers of symbols, all of which have to be in the alphabet; `offset` is where the first stands. -/
def sextets (offset : Nat) : Bytes → Except Fault (List Nat)
  | [] => .ok []
  | b :: rest =>
    match sextet? b with
    | none => .error (.wrongByte offset b)
    | some n => (sextets (offset + 1) rest).map (n :: ·)

/-- The last group: the numbers of its symbols and how many bytes of padding follow them.  `read` holds the numbers
before this point and `pads` counts the padding before it. -/
def lastGroup (start : Nat) : List Nat → Nat → Bytes → Except Fault (List Nat × Nat)
  | read, pads, [] => .ok (read, pads)
  | read, pads, b :: rest =>
    let offset := start + read.length + pads
    if b = padByte then
      if offset < start + 2 then .error (.wrongByte offset b) else lastGroup start read (pads + 1) rest
    else if 0 < pads then .error (.wrongByte (start + read.length) padByte)
    else
      match sextet? b with
      | none => .error (.wrongByte offset b)
      | some n => lastGroup start (read ++ [n]) pads rest

def unusedBits : List Nat → Nat
  | [_, n] => n % 16
  | [_, _, n] => n % 4
  | _ => 0

def joined : List Nat → Bytes
  | a :: b :: c :: d :: rest =>
    UInt8.ofNat (a * 4 + b / 16) :: UInt8.ofNat (b % 16 * 16 + c / 4) :: UInt8.ofNat (c % 4 * 64 + d) :: joined rest
  | [a, b, c] => [UInt8.ofNat (a * 4 + b / 16), UInt8.ofNat (b % 16 * 16 + c / 4)]
  | [a, b] => [UInt8.ofNat (a * 4 + b / 16)]
  | _ => []

/-- A lone byte after whole groups is reported first when it is neither a symbol nor padding. -/
def strayByte? (data : Bytes) : Option Fault :=
  match data.length % 4, data.getLast? with
  | 1, some b => if b = padByte ∨ (sextet? b).isSome then none else some (.wrongByte (data.length - 1) b)
  | _, _ => none

def lastStart (length : Nat) : Nat := if length % 4 = 0 then length - 4 else length - length % 4

/-- **The bytes of the bytes of a text.** -/
def decodeBytes (data : Bytes) : Except Fault Bytes :=
  match strayByte? data with
  | some fault => .error fault
  | none =>
    let start := lastStart data.length
    match sextets 0 (data.take start) with
    | .error e => .error e
    | .ok whole =>
      match lastGroup start [] 0 (data.drop start) with
      | .error e => .error e
      | .ok (last, pads) =>
        if data ≠ [] ∧ last.length < 2 then .error (.wrongLength (start + last.length))
        else if (last.length + pads) % 4 ≠ 0 then .error .wrongPadding
        else if unusedBits last ≠ 0 then
          let offset := start + last.length - 1
          .error (.wrongLastSymbol offset (data.getD offset 0))
        else .ok (joined (whole ++ last))

/-- **The bytes of a text.** -/
def decode (text : String) : Except Fault Bytes := decodeBytes (Text.bytes text)

end Base64
end SinkReporter
