import SinkReporter.Text.Numeral
import SinkReporter.Text.Utf8
/-!
# Http.Percent — bytes written as a percent sign and two digits

Each part of an address has characters of its own that do not stand for themselves.  Those are written byte by byte, and
so is everything outside ASCII.
-/
namespace SinkReporter
namespace Http
namespace Percent

def byte (b : UInt8) : List Char :=
  let digit (n : Nat) : Char := (Nat.digitChar n).toUpper
  ['%', digit (b.toNat / 16), digit (b.toNat % 16)]

/-- **Encodes the characters that do not stand for themselves.** -/
def encode (special : Char → Bool) (s : List Char) : String :=
  String.ofList (s.flatMap fun c => if special c then (String.utf8EncodeChar c).flatMap byte else [c])

def isOutside (c : Char) : Bool := c.toNat < 0x20 || 0x7E < c.toNat

def inFragment (c : Char) : Bool := isOutside c || [' ', '"', '<', '>', '\x60'].contains c

def inQuery (c : Char) : Bool := isOutside c || [' ', '"', '#', '<', '>'].contains c

def inWebQuery (c : Char) : Bool := inQuery c || c = '\x27'

def inPath (c : Char) : Bool := inFragment c || ['#', '?', '\x7b', '\x7d'].contains c

def inUser (c : Char) : Bool := inPath c || ['/', ':', ';', '=', '@', '[', '\\', ']', '^', '|'].contains c

/-- **The bytes of a text with its percent signs carried out.**  A percent sign without two digits stands for itself. -/
def decode : List Char → Bytes
  | '%' :: a :: b :: rest =>
    match Text.hex? a, Text.hex? b with
    | some x, some y => UInt8.ofNat (x * 16 + y) :: decode rest
    | _, _ => 37 :: decode (a :: b :: rest)
  | c :: rest => String.utf8EncodeChar c ++ decode rest
  | [] => []
termination_by s => s.length

end Percent
end Http
end SinkReporter
