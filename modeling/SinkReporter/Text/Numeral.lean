/-!
# Text.Numeral — digits and the number they stand for
-/
namespace SinkReporter
namespace Text

def hex? (c : Char) : Option Nat :=
  if '0' ≤ c ∧ c ≤ '9' then some (c.toNat - 48)
  else if 'a' ≤ c ∧ c ≤ 'f' then some (c.toNat - 87)
  else if 'A' ≤ c ∧ c ≤ 'F' then some (c.toNat - 55)
  else none

theorem hex?_digitChar : ∀ n < 16, hex? (Nat.digitChar n) = some n := by decide

def digitIn? (base : Nat) (c : Char) : Option Nat := (hex? c).filter (· < base)

/-- **The number that digits of a base stand for.**  No digits at all are no number. -/
def numeral? (base : Nat) (digits : List Char) : Option Nat :=
  if digits = [] then none else digits.foldlM (fun n c => (digitIn? base c).map (n * base + ·)) 0

def hexText (n : Nat) : String := String.ofList (Nat.toDigits 16 n)

end Text
end SinkReporter
