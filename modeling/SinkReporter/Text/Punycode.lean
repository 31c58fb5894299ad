import SinkReporter.Text.Split
/-!
# Text.Punycode — texts of any characters written in letters, digits and hyphens

The ASCII characters of a text come first and are set off by a hyphen.  Then follow the others in ascending order:
each as the number of steps from the one before, a step being one place further on in the text or, after its end, one
code point up.  The numbers are written with digits to the base 36, the least significant first, and a threshold for
each place says up to which digit a number ends there; the thresholds follow the sizes of the numbers so far.
-/
namespace SinkReporter
namespace Text
namespace Punycode

/-! ## Digits -/

def digit (d : Nat) : Char := if d < 26 then Char.ofNat (97 + d) else Char.ofNat (22 + d)

def value? (c : Char) : Option Nat :=
  if 'a' ≤ c ∧ c ≤ 'z' then some (c.toNat - 97)
  else if 'A' ≤ c ∧ c ≤ 'Z' then some (c.toNat - 65)
  else if '0' ≤ c ∧ c ≤ '9' then some (c.toNat - 22)
  else none

def threshold (bias place : Nat) : Nat := max 1 (min 26 (place - bias))

theorem one_le_threshold (bias place : Nat) : 1 ≤ threshold bias place := by unfold threshold; omega

def biasOf (delta : Nat) : Nat :=
  if 455 < delta then biasOf (delta / 35) + 36 else 36 * delta / (delta + 38)
termination_by delta

/-- The bias after a number, of which the first is damped, when so many characters are in place. -/
def adapt (delta count : Nat) (isFirst : Bool) : Nat :=
  let delta := if isFirst then delta / 700 else delta / 2
  biasOf (delta + delta / count)

def number (bias place n : Nat) : List Char :=
  let t := threshold bias place
  if n < t then [digit n] else digit (t + (n - t) % (36 - t)) :: number bias (place + 36) ((n - t) / (36 - t))
termination_by n
decreasing_by
  have := one_le_threshold bias place
  have := Nat.div_le_self (n - threshold bias place) (36 - threshold bias place)
  omega

/-! ## Encoding -/

/-- What has been written: how many characters are in place, the steps since the last one, and the bias. -/
structure Progress where
  output : List Char
  count : Nat
  delta : Nat
  bias : Nat

/-- Passes a character of the text while those of one code point are being placed. -/
def Progress.pass (basics code : Nat) (p : Progress) (c : Char) : Progress :=
  if c.toNat < code then { p with delta := p.delta + 1 }
  else if c.toNat = code then {
    output := p.output ++ number p.bias 36 p.delta
    count := p.count + 1
    delta := 0
    bias := adapt p.delta (p.count + 1) (p.count = basics) }
  else p

/-- Places the characters of each code point in turn, `next` being the first that has not been looked at. -/
def Progress.place (text : List Char) (basics : Nat) : Nat → Progress → List Nat → Progress
  | _, p, [] => p
  | next, p, code :: codes =>
    let p := { p with delta := p.delta + (code - next) * (p.count + 1) }
    let p := text.foldl (Progress.pass basics code) p
    Progress.place text basics (code + 1) { p with delta := p.delta + 1 } codes

/-- **The written form of a text.** -/
def encode (text : List Char) : List Char :=
  let basics := text.filter fun c => c.toNat < 128
  let codes := ((text.map Char.toNat).filter fun n => 128 ≤ n).mergeSort.eraseDups
  let start := if basics = [] then [] else basics ++ ['-']
  (Progress.place text basics.length 128 ⟨start, basics.length, 0, 72⟩ codes).output

/-! ## Decoding -/

/-- Reads a number from a place on, `weight` being what a digit counts there. -/
def readNumber (bias : Nat) : Nat → Nat → List Char → Option (Nat × List Char)
  | _, _, [] => none
  | place, weight, c :: rest =>
    match value? c with
    | none => none
    | some d =>
      let t := threshold bias place
      if d < t then some (d * weight, rest)
      else (readNumber bias (place + 36) (weight * (36 - t)) rest).map fun more => (d * weight + more.1, more.2)

theorem length_lt_of_readNumber {bias place weight n : Nat} {s rest : List Char}
    (h : readNumber bias place weight s = some (n, rest)) : rest.length < s.length := by
  induction s generalizing place weight n with
  | nil => simp [readNumber] at h
  | cons c s ih =>
    rw [readNumber] at h
    split at h
    · cases h
    · dsimp only at h
      split at h
      · simp only [Option.some.injEq, Prod.mk.injEq] at h
        rw [← h.2]
        simp
      · obtain ⟨more, hm, he⟩ := Option.map_eq_some_iff.1 h
        simp only [Prod.mk.injEq] at he
        have : rest.length < s.length := ih (by rw [hm, ← he.2])
        simp only [List.length_cons]
        omega

/-- Puts a character in at each number, `place` and `code` being where the last one went. -/
def insert (bias place code : Nat) (isFirst : Bool) (sofar s : List Char) : Option (List Char) :=
  if s = [] then some sofar
  else
    match h : readNumber bias 36 1 s with
    | none => none
    | some (delta, rest) =>
      have := length_lt_of_readNumber h
      let count := sofar.length + 1
      let steps := place + delta
      let code := code + steps / count
      if code.isValidChar then
        insert (adapt delta count isFirst) (steps % count + 1) code false
          (sofar.insertIdx (steps % count) (Char.ofNat code)) rest
      else none
termination_by s.length

/-- **The text of a written form.**  A hyphen sets off ASCII characters only if there are any. -/
def decode? (s : List Char) : Option (List Char) :=
  match cutAtLast '-' s with
  | (some (c :: basics), numbers) => insert 72 0 128 true (c :: basics) numbers
  | _ => insert 72 0 128 true [] s

end Punycode
end Text
end SinkReporter
