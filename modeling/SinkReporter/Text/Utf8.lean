/-!
# Text.Utf8 — bytes and the text they spell

A machine that takes one byte at a time and yields a character, or a mark where a run of bytes spells none.  Strict
reading asks for no mark; lossy reading puts U+FFFD for each.
-/
namespace SinkReporter

/-- A string of bytes: the content of a file, of an environment variable or of a response. -/
abbrev Bytes := List UInt8

namespace Text

def bytes (s : String) : Bytes := s.toList.flatMap String.utf8EncodeChar

/-- Where the machine stands: between two characters, or inside one that still owes `tails + 1` bytes, the next of them
from `low` to `high`, with `code` spelled so far. -/
inductive Utf8State where
  | between
  | inside (tails : Nat) (low high : UInt8) (code : Nat)

/-- The first byte of a character: the character itself, the state that waits for the rest, or nothing. -/
def leadByte (b : UInt8) : Option (Char ⊕ Utf8State) :=
  if b < 0x80 then some (.inl (Char.ofNat b.toNat))
  else if 0xC2 ≤ b ∧ b ≤ 0xDF then some (.inr (.inside 0 0x80 0xBF (b.toNat - 0xC0)))
  else if b = 0xE0 then some (.inr (.inside 1 0xA0 0xBF 0))
  else if b = 0xED then some (.inr (.inside 1 0x80 0x9F 0xD))
  else if 0xE1 ≤ b ∧ b ≤ 0xEF then some (.inr (.inside 1 0x80 0xBF (b.toNat - 0xE0)))
  else if b = 0xF0 then some (.inr (.inside 2 0x90 0xBF 0))
  else if b = 0xF4 then some (.inr (.inside 2 0x80 0x8F 4))
  else if 0xF1 ≤ b ∧ b ≤ 0xF3 then some (.inr (.inside 2 0x80 0xBF (b.toNat - 0xF0)))
  else none

/-- **The characters that bytes spell**, `none` standing for each longest run that starts a character and breaks off. -/
def spelled : Utf8State → Bytes → List (Option Char)
  | .between, [] => []
  | .inside .., [] => [none]
  | .between, b :: rest =>
    match leadByte b with
    | some (.inl c) => some c :: spelled .between rest
    | some (.inr state) => spelled state rest
    | none => none :: spelled .between rest
  | .inside tails low high code, b :: rest =>
    if low ≤ b ∧ b ≤ high then
      match tails with
      | 0 => some (Char.ofNat (code * 64 + (b.toNat - 0x80))) :: spelled .between rest
      | tails + 1 => spelled (.inside tails 0x80 0xBF (code * 64 + (b.toNat - 0x80))) rest
    else
      match leadByte b with
      | some (.inl c) => none :: some c :: spelled .between rest
      | some (.inr state) => none :: spelled state rest
      | none => none :: none :: spelled .between rest

def ofBytes? (data : Bytes) : Option String :=
  ((spelled .between data).mapM id).map String.ofList

def ofBytesLossy (data : Bytes) : String :=
  String.ofList ((spelled .between data).map (·.getD '\uFFFD'))

end Text
end SinkReporter
