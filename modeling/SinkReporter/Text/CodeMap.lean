import SinkReporter.Text.Numeral
import SinkReporter.Text.Split
/-!
# Text.CodeMap — sets and maps of code points, written down compactly

Tables of the Unicode character database are written as rows with a blank between them.  All numbers are hexadecimal.

* `A-B` and `A` are rows of a set: a range of code points, both ends counted, or a single one.
* `A=x.y,z` is a row of a map: `A` stands for `x y`, the next code point for `z`, and so on.
* `A-B=x.y`: every code point of the range stands for `x y`, perhaps for nothing at all.
* `A-B+d` and `A-B-d`: every code point of the range stands for the one that lies `d` further on, or further back.
* `A-B/+d`: the same for every second code point only.
-/
namespace SinkReporter
namespace Text

def hexValue (s : List Char) : Nat := (numeral? 16 s).getD 0

def rowsOf (lines : List String) : List (List Char) :=
  (lines.flatMap fun line => splitWhere (· = ' ') line.toList).filter (· ≠ [])

def rangeOf (s : List Char) : Nat × Nat :=
  match cutAt '-' s with
  | (low, some high) => (hexValue low, hexValue high)
  | (single, none) => (hexValue single, hexValue single)

structure CodeSet where
  ranges : List (Nat × Nat)

def CodeSet.ofLines (lines : List String) : CodeSet := ⟨(rowsOf lines).map rangeOf⟩

def CodeSet.contains (s : CodeSet) (code : Nat) : Bool := s.ranges.any fun (low, high) => low ≤ code && code ≤ high

inductive CodeRow where
  | single (first : Nat) (images : List (List Nat))
  | constant (low high : Nat) (image : List Nat)
  | shift (low high step : Nat) (distance : Int)

structure CodeMap where
  rows : List CodeRow

def imageOf (s : List Char) : List Nat := ((splitWhere (· = '.') s).filter (· ≠ [])).map hexValue

def distanceOf : List Char → Int
  | '-' :: digits => -(hexValue digits)
  | _ :: digits => hexValue digits
  | [] => 0

def CodeRow.ofText (s : List Char) : CodeRow :=
  match cutAt '=' s with
  | (range, some image) =>
    if range.contains '-' then
      let (low, high) := rangeOf range
      .constant low high (imageOf image)
    else .single (hexValue range) ((splitWhere (· = ',') image).map imageOf)
  | (_, none) =>
    let digit (c : Char) : Bool := (hex? c).isSome
    let high := s.dropWhile digit |>.drop 1
    let rest := high.dropWhile digit
    let step := if rest.head? = some '/' then 2 else 1
    .shift (hexValue (s.takeWhile digit)) (hexValue (high.takeWhile digit)) step (distanceOf (rest.drop (step - 1)))

def CodeMap.ofLines (lines : List String) : CodeMap := ⟨(rowsOf lines).map CodeRow.ofText⟩

def CodeRow.image? (row : CodeRow) (code : Nat) : Option (List Nat) :=
  match row with
  | .single first images => if first ≤ code then images[code - first]? else none
  | .constant low high image => if low ≤ code ∧ code ≤ high then some image else none
  | .shift low high step distance =>
    if low ≤ code ∧ code ≤ high ∧ (code - low) % step = 0 then some [(code + distance).toNat] else none

/-- **What a code point stands for**, if the map speaks of it. -/
def CodeMap.image? (m : CodeMap) (code : Nat) : Option (List Nat) := m.rows.findSome? (·.image? code)

end Text
end SinkReporter
