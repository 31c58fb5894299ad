import SinkReporter.Json.Container
/-!
# Json.Reader — a JSON text as a value

The whole text is one value with white space around it.  Containers nest at most `maxDepth` deep, and of members with
one name the last stands.
-/
namespace SinkReporter
namespace Json

def maxDepth : Nat := 127

/-- **Reads a value** with at most `depth` containers inside one another, white space before it allowed. -/
def readValue : Nat → List Char → Reading Value
  | depth, s =>
    match skipSpace s with
    | [] => .error .brokenOff
    | c :: rest =>
      if c = 'n' then (expect ['u', 'l', 'l'] rest).map fun r => (.null, r)
      else if c = 't' then (expect ['r', 'u', 'e'] rest).map fun r => (.bool true, r)
      else if c = 'f' then (expect ['a', 'l', 's', 'e'] rest).map fun r => (.bool false, r)
      else if c = '"' then (readString rest).map fun (text, r) => (.string text, r)
      else if c = '-' ∨ (digit? c).isSome then (readNumber (c :: rest)).map fun (n, r) => (.number n, r)
      else if c = '[' then
        match depth with
        | 0 => .error .malformed
        | depth + 1 =>
          (readItems (fun acc s => (readValue depth s).map fun (v, r) => (v :: acc, r)) [] rest).map
            fun (acc, r) => (.array acc.reverse, r)
      else if c = '\x7b' then
        match depth with
        | 0 => .error .malformed
        | depth + 1 =>
          (readMembers (fun key acc s =>
              match expectColon s with
              | .error e => .error e
              | .ok s => (readValue depth s).map fun (v, r) => (putMember key v acc, r)) [] rest).map
            fun (members, r) => (.object members, r)
      else .error .malformed

def expectEnd (s : List Char) : Except Fault Unit :=
  match skipSpace s with
  | [] => .ok ()
  | _ :: _ => .error .malformed

/-- **The value of a text.** -/
def parse (text : String) : Except Fault Value :=
  match readValue maxDepth text.toList with
  | .error e => .error e
  | .ok (value, rest) => (expectEnd rest).map fun _ => value

end Json
end SinkReporter
