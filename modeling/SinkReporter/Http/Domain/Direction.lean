import SinkReporter.Text.CodeMap
import SinkReporter.Text.Printable
/-!
# Http.Domain.Direction — names that are read from right to left

A name with a character that is read from right to left has to keep its parts legible: each of them is read in one
direction throughout, and where it begins and ends can be seen.
-/
namespace SinkReporter
namespace Http
namespace Domain

inductive Direction where
  | left
  | right
  | arabicNumber
  | number
  | mark
  | neutral
  deriving DecidableEq, Repr

def rightward : Text.CodeSet := .ofLines
  ["5BE-5F4 608 60B 60D 61B-64A 66D-6D5 6E5-6E6 6EE-6EF 6FA-7F5 7FA-8C9 FBB2-FBC2 FE73 10800-1091B 10920-10B35",
   "10B40-10D23 10D40-10D85 10E80-10EC7 10F00-10FF6 1E800-1ED3D"]

def arabicDigits : Text.CodeSet := .ofLines
  ["660-669 66B-66C 10D30-10D39 10E60-10E7E"]

def digits : Text.CodeSet := .ofLines
  ["30-39 6F0-6F9 102E1-102FB"]

def neutrals : Text.CodeSet := .ofLines
  ["0-2F 3A-60 7B-D7 F7 2B9-2BA 2C2-2CF 2D2-2ED 2EF-2FF 375 3F6 58A-58F 606-607 609-60A 60C 60E-60F 66A 6DE 6E9",
   "7F6-7F9 9F2-9F3 9FB AF1 BF3-BFA C78-C7E E3F F3A-F3D 1390-1399 1400 169B-169C 17DB 17F0-180A 1940-1945",
   "19DE-19FF 1B4E-1B4F 1B7F 200C-214D 218A-2335 237B-2394 2396-26AB 26AD-27FF 2900-2BFF 2CE5-2CEA 2CF9-2CFF",
   "2E00-3004 3008-3020 3030 3037 303D-303F 30A0 30FB 31C0-31E5 4DC0-4DFF A490-A4C6 A60D-A60F A673-A67F A700-A721",
   "A788 A828-A82B A838-A839 A874-A877 AB6A-AB6B FBC3-FE46 10101 10140-1018C 10190-101A0 1091F 10B39-10B3F",
   "10D8E-10D8F 10ED0-10ED8 11052-11065 11660-1166C 11FD5-11FF1 16FE2 1CC00-1CEF0 1D1E9-1D245 1D300-1D356 1E2FF",
   "1E5FF 1EEF0-1F12F 1F16D-1F16F 1F1AD 1F260-1FBFA"]

def readLikeLetters : Text.CodeSet := .ofLines
  ["9BE 9D7 B3E B57 BBE BD7 CBF-CCB CD5-CD6 D3E D57 DCF DDF 1715 1734 1B35 1B3B 1B3D 1B43-1B44 1BAA 1BF2-1BF3 200C",
   "302E-302F A953 A9C0 111C0 11235 1133E 1134D-11357 113B8 113C2-113C9 113CF 114B0 114BD 115AF 116B6 11930 1193D",
   "11A07-11A08 11C3F 11F41 16FF0-16FF1 1D165-1D166 1D16D-1D172"]

def isNonspacing (code : Nat) : Bool :=
  Text.inRanges Text.extendingRanges code && !readLikeLetters.contains code || code = 0x1171E

def Direction.of (code : Nat) : Direction :=
  if isNonspacing code then .mark
  else if rightward.contains code then .right
  else if arabicDigits.contains code then .arabicNumber
  else if digits.contains code then .number
  else if neutrals.contains code then .neutral
  else .left

def Direction.turns (d : Direction) : Bool := d = .right || d = .arabicNumber

/-- A part of a name in which the direction begins, goes on and ends as it should. -/
def isLegible (label : List Nat) : Bool :=
  let directions := label.map Direction.of
  let final := (directions.reverse.dropWhile (· = .mark)).head?
  match directions with
  | [] => true
  | .right :: _ =>
    !directions.contains .left && !(directions.contains .number && directions.contains .arabicNumber)
      && [some .right, some .number, some .arabicNumber].contains final
  | .left :: _ => !directions.any Direction.turns && [some .left, some .number].contains final
  | _ => false

/-- **The parts of a name can be read**: none of them turns, or all of them are legible. -/
def areLegible (labels : List (List Nat)) : Bool :=
  !labels.any (·.any fun code => (Direction.of code).turns) || labels.all isLegible

end Domain
end Http
end SinkReporter
