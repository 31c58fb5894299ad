import SinkReporter.Text.Printable
/-!
# Text.Quoted — a text between double quotes, every doubtful character spelled out

The form that messages and log lines use for a text of unknown content.  Only visible characters stand as themselves,
so that a quoted text never breaks a line and is read back in one way.
-/
namespace SinkReporter
namespace Text

def quotedChar (c : Char) : List Char :=
  if c = '\x00' then ['\\', '0']
  else if c = '\t' then ['\\', 't']
  else if c = '\r' then ['\\', 'r']
  else if c = '\n' then ['\\', 'n']
  else if c = '\\' then ['\\', '\\']
  else if c = '"' then ['\\', '"']
  else if isExtending c || isInvisible c then ['\\', 'u', '\x7b'] ++ Nat.toDigits 16 c.toNat ++ ['\x7d']
  else [c]

/-- **A text in double quotes.** -/
def quoted (s : String) : String :=
  String.ofList ('"' :: s.toList.flatMap quotedChar ++ ['"'])

end Text
end SinkReporter
