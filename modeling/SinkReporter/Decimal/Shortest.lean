/-!
# Decimal.Shortest — the fewest digits that read back

A finite double is `mantissa * 2 ^ exponent`, and it is read back from every decimal that lies closer to it than to its
neighbours.  Of those decimals the one with the fewest digits is wanted, of several the nearest, and of two equally near
the one whose last digit is even.
-/
namespace SinkReporter
namespace Decimal

/-- A positive finite double, `mantissa * 2 ^ exponent`.  At an `edge` the next double below is half as far away as the
next one above. -/
structure Dyadic where
  mantissa : Nat
  exponent : Int
  edge : Bool
  deriving DecidableEq, Repr

/-- A decimal, `digits * 10 ^ exponent`. -/
structure Numeral where
  digits : Nat
  exponent : Int
  deriving DecidableEq, Repr

def Dyadic.ofBits (bits : UInt64) : Dyadic :=
  let fraction : Nat := bits.toNat % Nat.pow 2 52
  let field : Nat := bits.toNat / Nat.pow 2 52 % Nat.pow 2 11
  if field = 0 then ⟨fraction, -1074, false⟩
  else ⟨fraction + Nat.pow 2 52, Int.ofNat field - 1075, fraction = 0 && field != 1⟩

/-- Four times the double as the fraction `4 * mantissa * (scale / unit)`: the pair `(scale, unit)`. -/
def Dyadic.scale (d : Dyadic) : Nat × Nat :=
  (Nat.pow 2 (d.exponent - 2).toNat, Nat.pow 2 (2 - d.exponent).toNat)

def powerOfTen (k : Int) : Nat × Nat := (Nat.pow 10 k.toNat, Nat.pow 10 (-k).toNat)

/-- The decimal reads back as the double: it lies between the midpoints to the two neighbours, the midpoints themselves
counting when the mantissa is even. -/
def Dyadic.readsBack (d : Dyadic) (c : Numeral) : Bool :=
  let (scale, unit) := d.scale
  let (up, down) := powerOfTen c.exponent
  let value := c.digits * up * unit
  let low := (4 * d.mantissa - if d.edge then 1 else 2) * scale * down
  let high := (4 * d.mantissa + 2) * scale * down
  if d.mantissa % 2 = 0 then low ≤ value && value ≤ high else low < value && value < high

def digitCount (n : Nat) : Nat := (Nat.toDigits 10 n).length

/-- The power of ten just above the double: `10 ^ (p - 1) ≤ d < 10 ^ p`. -/
def Dyadic.magnitude (d : Dyadic) : Int :=
  let (scale, unit) := d.scale
  let value := 4 * d.mantissa * scale
  if unit ≤ value then digitCount (value / unit) else 1 - (digitCount (unit / value) : Int)

/-- The nearer of the double's two neighbours on the grid of multiples of `10 ^ k`, among those that read back. -/
def Dyadic.onGrid (d : Dyadic) (k : Int) : Option Numeral :=
  let (scale, unit) := d.scale
  let (up, down) := powerOfTen k
  let value := 4 * d.mantissa * scale * down
  let step := unit * up
  let below : Numeral := ⟨value / step, k⟩
  let above : Numeral := ⟨value / step + 1, k⟩
  let gap := 2 * (value % step)
  let preferAbove := gap > step || (gap = step && below.digits % 2 = 1)
  match d.readsBack below, d.readsBack above with
  | true, true => some (if preferAbove then above else below)
  | true, false => some below
  | false, true => some above
  | false, false => none

/-- The first grid with a hit, from `n` digits on; seventeen digits always read back. -/
def Dyadic.search (d : Dyadic) (p : Int) : Nat → Nat → Numeral
  | 0, n => ⟨0, p - n⟩
  | fuel + 1, n =>
    match d.onGrid (p - n) with
    | some c => c
    | none => d.search p fuel (n + 1)

def Numeral.trimmed (c : Numeral) : Numeral :=
  if c.digits % 10 = 0 then ⟨c.digits / 10, c.exponent + 1⟩ else c

/-- **The shortest decimal that reads back as the double.**  On the grid of one digit the neighbour above may be ten,
which is one again on the next grid; on finer grids it never is, for then the coarser grid had a hit. -/
def Dyadic.shortest (d : Dyadic) : Numeral := (d.search d.magnitude 18 1).trimmed

end Decimal
end SinkReporter
