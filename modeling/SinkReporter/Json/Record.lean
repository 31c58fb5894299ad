import SinkReporter.Json.Form
import SinkReporter.Json.Skip
/-!
# Json.Record — data with named fields

A record is written as an object, its fields in any order among members of other names, or as an array, its fields in
order.  While it is read its fields are kept in a draft; `finish` makes the record of a draft, or names the first field
that is missing.
-/
namespace SinkReporter
namespace Json

/-- One field of the record kept in drafts `ρ`: whether a draft has it, and how it is put into one.  A field that
`mayEnd` can be left off at the end of an array. -/
structure Field (ρ : Type) where
  name : String
  has : ρ → Bool
  read : ρ → List Char → Reading ρ
  take : ρ → Value → Except Misfit ρ
  mayEnd : Bool

def Field.of {ρ α : Type} (name : String) (form : Form α) (get : ρ → Option α) (put : ρ → α → ρ)
    (mayEnd : Bool) : Field ρ where
  name := name
  has d := (get d).isSome
  read d s := (form.read s).map fun (a, r) => (put d a, r)
  take d v := (form.take v).map (put d)
  mayEnd := mayEnd

/-- A record: what it is called, its fields in order, whether members of other names are refused, the empty draft, and
the record of a draft. -/
structure Record (ρ α : Type) where
  name : String
  fields : List (Field ρ)
  exact : Bool
  blank : ρ
  finish : ρ → Except Misfit α

namespace Record

variable {ρ α : Type}

def names (record : Record ρ α) : List String := record.fields.map (·.name)

def field? (record : Record ρ α) (key : String) : Option (Field ρ) := record.fields.find? (·.name = key)

/-- An array that ends before the given fields, the first of which has the given index: each of them must be one that
may be left off. -/
def leftOff (record : Record ρ α) : List (Field ρ) → Nat → Except Misfit Unit
  | [], _ => .ok ()
  | f :: rest, index =>
    if f.mayEnd then record.leftOff rest (index + 1)
    else .error (.wrongLength index (.recordOf record.name record.fields.length))

/-- Reads the items of an array into the given fields, the first of which has the given index. -/
def readItems (record : Record ρ α) : List (Field ρ) → Nat → ρ → List Char → Reading ρ
  | [], _, d, s => (closeItems s).map fun r => (d, r)
  | f :: rest, index, d, s =>
    match nextItem (index = 0) s with
    | .error e => .error e
    | .ok (.done r) => ((record.leftOff (f :: rest) index).mapError misfit).map fun _ => (d, r)
    | .ok (.part s) =>
      match f.read d s with
      | .error e => .error e
      | .ok (d, s) => record.readItems rest (index + 1) d s

/-- Reads one member of an object, from after its name on: a field into the draft, unless the draft has it already;
anything else is passed over, or refused. -/
def readMember (record : Record ρ α) (key : String) (d : ρ) (s : List Char) : Reading ρ :=
  match record.field? key with
  | some f =>
    if f.has d then .error (.misfit (.duplicateField key))
    else (expectColon s).bind (f.read d)
  | none =>
    if record.exact then .error (.misfit (.unknownField key record.names))
    else ((expectColon s).bind skipValue).map fun r => (d, r)

/-- Takes the items of an array into the given fields; what is left over is returned. -/
def takeItems (record : Record ρ α) : List (Field ρ) → Nat → ρ → List Value → Except Misfit (ρ × List Value)
  | [], _, d, items => .ok (d, items)
  | f :: rest, index, d, [] => (record.leftOff (f :: rest) index).map fun _ => (d, [])
  | f :: rest, index, d, item :: items =>
    match f.take d item with
    | .error e => .error e
    | .ok d => record.takeItems rest (index + 1) d items

def takeMembers (record : Record ρ α) : ρ → List (String × Value) → Except Misfit ρ
  | d, [] => .ok d
  | d, (key, value) :: rest =>
    match record.field? key with
    | some f =>
      if f.has d then .error (.duplicateField key)
      else
        match f.take d value with
        | .error e => .error e
        | .ok d => record.takeMembers d rest
    | none =>
      if record.exact then .error (.unknownField key record.names)
      else record.takeMembers d rest

def finishReading (record : Record ρ α) : Reading ρ → Reading α
  | .error e => .error e
  | .ok (d, rest) => ((record.finish d).mapError misfit).map fun a => (a, rest)

/-- **How a record is read.** -/
def form (record : Record ρ α) : Form α where
  read s :=
    match skipSpace s with
    | '[' :: rest => record.finishReading (record.readItems record.fields 0 record.blank rest)
    | '\x7b' :: rest => record.finishReading (readMembers record.readMember record.blank rest)
    | s => .error (unwanted (.record record.name) s)
  take
    | .array items =>
      match record.takeItems record.fields 0 record.blank items with
      | .error e => .error e
      | .ok (d, rest) =>
        match record.finish d with
        | .error e => .error e
        | .ok a => if rest.isEmpty then .ok a else .error (.wrongLength items.length .fewerItems)
    | .object members => (record.takeMembers record.blank members).bind record.finish
    | v => .error (.wrongType v.found (.record record.name))

end Record

def need {α : Type} (name : String) : Option α → Except Misfit α
  | some a => .ok a
  | none => .error (.missingField name)

def single {α : Type} (title name : String) (make : String → α) : Record (Option String) α where
  name := title
  fields := [.of name .text id (fun _ text => some text) false]
  exact := false
  blank := none
  finish := fun d => (need name d).map make

end Json
end SinkReporter
