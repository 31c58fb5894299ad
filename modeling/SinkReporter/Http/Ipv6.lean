import SinkReporter.Text.Numeral
import SinkReporter.Text.Split
/-!
# Http.Ipv6 — numbers of hosts in eight pieces

A number of a host has eight pieces of sixteen bits, written in hexadecimal with colons between them.  Two colons in
a row stand for one or more pieces that are zero, and the last two pieces may be written as four bytes with dots.  Of
the ways to write a number one is chosen: no leading zeros, lower case, and the first of the longest runs of zeros
left out.
-/
namespace SinkReporter
namespace Http

structure Ipv6 where
  pieces : List Nat
  eight : pieces.length = 8
  deriving DecidableEq, Repr

namespace Ipv6

/-! ## Reading -/

def piece? (s : List Char) : Option Nat := if s.length ≤ 4 then Text.numeral? 16 s else none

def byte? (s : List Char) : Option Nat :=
  if s.head? = some '0' ∧ s ≠ ['0'] then none else (Text.numeral? 10 s).filter (· < 256)

def dotted? (s : List Char) : Option (List Nat) :=
  match (Text.splitWhere (· = '.') s).mapM byte? with
  | some [a, b, c, d] => some [a * 256 + b, c * 256 + d]
  | _ => none

/-- The pieces of the parts between colons.  The last part may be dotted where that is allowed. -/
def piecesOf? (dots : Bool) : List (List Char) → Option (List Nat)
  | [] => some []
  | [part] => if dots && part.contains '.' then dotted? part else (piece? part).map ([·])
  | part :: rest =>
    match piece? part with
    | none => none
    | some p => (piecesOf? dots rest).map (p :: ·)

def run? (dots : Bool) (s : List Char) : Option (List Nat) :=
  if s = [] then some [] else piecesOf? dots (Text.splitWhere (· = ':') s)

/-- Splits at the first two colons in a row; the second part is missing when there are none. -/
def cutGap : List Char → List Char × Option (List Char)
  | ':' :: ':' :: rest => ([], some rest)
  | c :: rest =>
    let (front, back) := cutGap rest
    (c :: front, back)
  | [] => ([], none)

def allPieces? (s : List Char) : Option (List Nat) :=
  match cutGap s with
  | (whole, none) => run? true whole
  | (front, some back) =>
    match run? false front, run? true back with
    | some before, some after =>
      if before.length + after.length < 8 then
        some (before ++ List.replicate (8 - before.length - after.length) 0 ++ after)
      else none
    | _, _ => none

/-- **The number of a text.** -/
def parse (s : List Char) : Option Ipv6 :=
  match allPieces? s with
  | none => none
  | some pieces => if eight : pieces.length = 8 then some ⟨pieces, eight⟩ else none

/-! ## Writing -/

def zeros (pieces : List Nat) : Nat := (pieces.takeWhile (· = 0)).length

def longestZeros (pieces : List Nat) : Nat × Nat :=
  (List.range pieces.length).foldl
    (fun best start =>
      let length := zeros (pieces.drop start)
      if best.2 < length then (start, length) else best)
    (0, 0)

def joined (pieces : List Nat) : String := String.intercalate ":" (pieces.map Text.hexText)

/-- **The text of a number.**  A single zero is written out. -/
def text (a : Ipv6) : String :=
  let (start, length) := longestZeros a.pieces
  if length < 2 then joined a.pieces
  else joined (a.pieces.take start) ++ "::" ++ joined (a.pieces.drop (start + length))

end Ipv6
end Http
end SinkReporter
