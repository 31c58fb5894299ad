import SinkReporter.Decimal.Shortest
/-!
# Json.Number — numbers and their text

Whole numbers of 64 bits keep their value, all others are doubles.  A double is written with the fewest digits that read
back: positional from `1e-5` up to `1e16`, with an exponent outside.
-/
namespace SinkReporter
namespace Json

inductive Number where
  | integer (value : Int)
  | double (value : Float)

def layout (c : Decimal.Numeral) : List Char :=
  let digits := Nat.toDigits 10 c.digits
  let point := (digits.length : Int) + c.exponent
  if 0 < point ∧ point ≤ 16 then
    if 0 ≤ c.exponent then digits ++ List.replicate c.exponent.toNat '0' ++ ['.', '0']
    else digits.take point.toNat ++ '.' :: digits.drop point.toNat
  else if -5 < point ∧ point ≤ 0 then
    '0' :: '.' :: List.replicate (-point).toNat '0' ++ digits
  else
    let power := point - 1
    let sign := if power < 0 then '-' else '+'
    let fraction := match digits.drop 1 with
      | [] => []
      | rest => '.' :: rest
    digits.take 1 ++ fraction ++ 'e' :: sign :: Nat.toDigits 10 power.natAbs

/-- **A finite double in decimal.** -/
def doubleText (x : Float) : String :=
  let bits := x.toBits
  let sign := if bits.toNat < UInt64.size / 2 then [] else ['-']
  let magnitude := if bits.toNat % (UInt64.size / 2) = 0 then ['0', '.', '0']
    else layout (Decimal.Dyadic.ofBits bits).shortest
  String.ofList (sign ++ magnitude)

def Number.text : Number → String
  | .integer value => toString value
  | .double value => doubleText value

def tenTo (n : Nat) : Float := Float.ofScientific 1 false n

/-- A double divided by `10 ^ n`, in steps of `10 ^ 308`; zero stays zero. -/
def dividedByTenTo (x : Float) (n : Nat) : Float :=
  if n ≤ 308 then x / tenTo n
  else if x == 0 then x
  else dividedByTenTo (x / tenTo 308) (n - 308)
termination_by n

/-- `significand * 10 ^ exponent` as a double: one rounding for the significand and one for each multiplication or
division, so the result need not be the nearest double.  `none` where it is out of range. -/
def scaled (significand : Nat) (exponent : Int) : Option Float :=
  let x := (UInt64.ofNat significand).toFloat
  if exponent < 0 then some (dividedByTenTo x (-exponent).toNat)
  else if exponent ≤ 308 then
    let y := x * tenTo exponent.toNat
    if y.isInf then none else some y
  else if x == 0 then some x
  else none

end Json
end SinkReporter
