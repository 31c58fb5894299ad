/-!
# Text.Blank — white space and control characters

The characters that Unicode counts as white space, text without the run of them at either end, and the characters that may
stand within a line.
-/
namespace SinkReporter
namespace Text

def isBlank (c : Char) : Bool :=
  let code := c.toNat
  (9 ≤ code && code ≤ 13) || code == 0x20 || code == 0x85 || code == 0xA0 || code == 0x1680 ||
    (0x2000 ≤ code && code ≤ 0x200A) || code == 0x2028 || code == 0x2029 || code == 0x202F || code == 0x205F ||
    code == 0x3000

def trim (cs : List Char) : List Char :=
  ((cs.dropWhile isBlank).reverse.dropWhile isBlank).reverse

/-- A character that may stand within a line: no control character of ASCII but the tab. -/
def isInline (c : Char) : Bool := c = '\t' || (0x20 ≤ c.toNat && c.toNat ≠ 0x7F)

end Text
end SinkReporter
