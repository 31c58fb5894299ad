import SinkReporter.Json.Container
/-!
# Json.Skip — passing over a value

What is not asked for only has to be well formed.  Containers may nest to any depth here, and numbers and escapes may
stand for nothing.
-/
namespace SinkReporter
namespace Json

/-- Passes over the members of an object, at most `fuel` of them, each value by means of `skip`. -/
def skipMembers (skip : List Char → Except Fault (List Char)) : Nat → Bool → List Char → Except Fault (List Char)
  | 0, _, _ => .error .malformed
  | fuel + 1, first, s =>
    match nextMember first s with
    | .error e => .error e
    | .ok (.done rest) => .ok rest
    | .ok (.part rest) =>
      match (skipString rest).bind expectColon with
      | .error e => .error e
      | .ok rest =>
        match skip rest with
        | .error e => .error e
        | .ok rest => skipMembers skip fuel false rest

/-- Passes over a value with at most `depth` containers inside one another, white space before it allowed. -/
def skipNested : Nat → List Char → Except Fault (List Char)
  | depth, s =>
    match skipSpace s with
    | [] => .error .brokenOff
    | c :: rest =>
      if c = 'n' then expect ['u', 'l', 'l'] rest
      else if c = 't' then expect ['r', 'u', 'e'] rest
      else if c = 'f' then expect ['a', 'l', 's', 'e'] rest
      else if c = '"' then skipString rest
      else if c = '-' ∨ (digit? c).isSome then skipNumber (c :: rest)
      else if c = '[' then
        match depth with
        | 0 => .error .malformed
        | depth + 1 => (readItems (fun _ s => (skipNested depth s).map fun r => ((), r)) () rest).map (·.2)
      else if c = '\x7b' then
        match depth with
        | 0 => .error .malformed
        | depth + 1 => (skipMembers (skipNested depth) (rest.length + 1) true rest)
      else .error .malformed

/-- **Passes over a value.**  There are fewer containers inside one another than characters. -/
def skipValue (s : List Char) : Except Fault (List Char) := skipNested s.length s

end Json
end SinkReporter
