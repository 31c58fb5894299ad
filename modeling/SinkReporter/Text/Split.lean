/-!
# Text.Split — cutting a text at its marks
-/
namespace SinkReporter
namespace Text

def splitWhere (p : Char → Bool) : List Char → List (List Char)
  | [] => [[]]
  | c :: rest =>
    if p c then [] :: splitWhere p rest
    else
      match splitWhere p rest with
      | [] => [[c]]
      | first :: others => (c :: first) :: others

/-- Splits at the first character of a kind; the second part is missing when there is none. -/
def cutAt (mark : Char) (s : List Char) : List Char × Option (List Char) :=
  match s.dropWhile (· ≠ mark) with
  | [] => (s, none)
  | _ :: rest => (s.takeWhile (· ≠ mark), some rest)

/-- Splits at the last character of a kind; the first part is missing when there is none. -/
def cutAtLast (mark : Char) (s : List Char) : Option (List Char) × List Char :=
  let back := s.reverse
  match back.dropWhile (· ≠ mark) with
  | [] => (none, s)
  | _ :: before => (some before.reverse, (back.takeWhile (· ≠ mark)).reverse)

end Text
end SinkReporter
