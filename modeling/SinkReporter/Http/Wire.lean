import SinkReporter.Http.Session
/-!
# Http.Wire — requests and replies as the bytes that travel

A delivery is written as one message, its body in one chunk where its headers say so, and the connection is closed after it.
What comes back up to the end of the
connection is read as a reply: a body ends where its length or its last chunk says, and a body that ends early is marked
as broken off.
-/
namespace SinkReporter
namespace Http

/-! ## Writing -/

def lineEnd : String := "\r\n"

def inChunks (body : Bytes) : Bytes :=
  Text.bytes (Text.hexText body.length ++ lineEnd) ++ body ++ Text.bytes (lineEnd ++ "0" ++ lineEnd ++ lineEnd)

/-- **A delivery as bytes.** -/
def Delivery.wire (d : Delivery) (u : Url) : Bytes :=
  let host := if valuesIn d.headers "host" = [] then [("host", u.hostField)] else []
  let fields := host ++ d.headers ++ [("connection", "close")]
  let lines := ("POST " ++ d.target ++ " HTTP/1.1") :: fields.map fun field => field.1 ++ ": " ++ field.2
  let body := Text.bytes d.body
  Text.bytes (String.join (lines.map (· ++ lineEnd)) ++ lineEnd) ++
    if valuesIn d.headers "transfer-encoding" = [] then body else inChunks body

/-! ## Reading -/

def cutLine : Bytes → Option (Bytes × Bytes)
  | [] => none
  | 13 :: 10 :: rest => some ([], rest)
  | b :: rest => (cutLine rest).map fun parts => (b :: parts.1, parts.2)

theorem length_lt_of_cutLine {data line rest : Bytes} (h : cutLine data = some (line, rest)) :
    rest.length < data.length := by
  fun_induction cutLine data generalizing line with
  | case1 => simp at h
  | case2 more =>
    simp only [Option.some.injEq, Prod.mk.injEq] at h
    rw [← h.2, List.length_cons, List.length_cons]
    omega
  | case3 b more _ ih =>
    obtain ⟨parts, hp, he⟩ := Option.map_eq_some_iff.1 h
    simp only [Prod.mk.injEq] at he
    have : rest.length < more.length := ih (by rw [hp, ← he.2])
    simp only [List.length_cons]
    omega

def readHead (data : Bytes) : Option (List Bytes × Bytes) :=
  match h : cutLine data with
  | none => none
  | some ([], rest) => some ([], rest)
  | some (line, rest) =>
    have := length_lt_of_cutLine h
    (readHead rest).map fun parts => (line :: parts.1, parts.2)
termination_by data.length

def plainText (line : List Char) : List Char :=
  let blank (c : Char) : Bool := c = ' ' || c = '\t'
  ((line.dropWhile blank).reverse.dropWhile blank).reverse

def headValue? (name : String) : List Bytes → Option (List Char)
  | [] => none
  | line :: rest =>
    match Text.cutAt ':' ((Text.ofBytesLossy line).toList.map Char.toLower) with
    | (found, some value) => if String.ofList found = name then some (plainText value) else headValue? name rest
    | (_, none) => headValue? name rest

def readChunks (data : Bytes) : Bytes × Bool :=
  match h : cutLine data with
  | none => ([], true)
  | some (line, rest) =>
    have := length_lt_of_cutLine h
    match Text.numeral? 16 (plainText ((Text.ofBytesLossy line).toList.takeWhile (· ≠ ';'))) with
    | none => ([], true)
    | some 0 => ([], false)
    | some size =>
      if rest.length < size + 2 then (rest, true)
      else
        let more := readChunks (rest.drop (size + 2))
        (rest.take size ++ more.1, more.2)
termination_by data.length
decreasing_by simp only [List.length_drop]; omega

def readBody (head : List Bytes) (rest : Bytes) : Bytes × Bool :=
  if headValue? "transfer-encoding" head = some "chunked".toList then readChunks rest
  else
    match (headValue? "content-length" head).bind (Text.numeral? 10) with
    | some size => (rest.take size, rest.length < size)
    | none => (rest, false)

def statusOf? (line : Bytes) : Option Nat :=
  match (Text.ofBytesLossy line).toList with
  | 'H' :: 'T' :: 'T' :: 'P' :: '/' :: '1' :: '.' :: _ :: ' ' :: a :: b :: c :: _ => Text.numeral? 10 [a, b, c]
  | _ => none

theorem length_lt_of_readHead {data rest : Bytes} {head : List Bytes} (h : readHead data = some (head, rest)) :
    rest.length < data.length := by
  fun_induction readHead data generalizing head with
  | case1 => simp at h
  | case2 data more hcut =>
    simp only [Option.some.injEq, Prod.mk.injEq] at h
    rw [← h.2]
    exact length_lt_of_cutLine hcut
  | case3 data line more _ hcut _ ih =>
    obtain ⟨parts, hp, he⟩ := Option.map_eq_some_iff.1 h
    simp only [Prod.mk.injEq] at he
    have : rest.length < more.length := ih (by rw [hp, ← he.2])
    have := length_lt_of_cutLine hcut
    omega

/-- **The reply in the bytes that came back.**  Replies on the way are passed over, and what is no reply is taken for
hanging up. -/
def Reply.ofWire (data : Bytes) : Reply :=
  match h : readHead data with
  | some (first :: head, rest) =>
    have := length_lt_of_readHead h
    match statusOf? first with
    | none => .hangUp
    | some status =>
      if status < 200 ∧ !isFinal status then Reply.ofWire rest
      else
        let body := readBody head rest
        .answer status body.1 body.2
  | _ => .hangUp
termination_by data.length

end Http
end SinkReporter
