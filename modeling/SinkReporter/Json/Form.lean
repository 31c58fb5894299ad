import SinkReporter.Json.Reader
/-!
# Json.Form — data of one kind, read from a text or taken from a value

A form reads its data in two ways.  `read` works straight through the characters and stops at the first fault it meets,
of whatever sort; `take` is given a value that was read as a whole before.  The two know the same data and word its
misfits alike.
-/
namespace SinkReporter
namespace Json

/-- How data of one kind is read. -/
structure Form (α : Type) where
  read : List Char → Reading α
  take : Value → Except Misfit α

def misfit (cause : Misfit) : Fault := .misfit cause

/-- **The fault of meeting something else than was wanted.**  What was met is read to its end first when it is a name, a
number or a string, so a fault inside it comes before the misfit; of a container only the bracket is seen. -/
def unwanted (wanted : Wanted) (s : List Char) : Fault :=
  let wrong (found : Found) : Fault := .misfit (.wrongType found wanted)
  let after {β : Type} (reading : Except Fault β) (found : β → Found) : Fault :=
    match reading with
    | .error e => e
    | .ok b => wrong (found b)
  match s with
  | [] => .brokenOff
  | c :: rest =>
    if c = 'n' then after (expect ['u', 'l', 'l'] rest) fun _ => .null
    else if c = 't' then after (expect ['r', 'u', 'e'] rest) fun _ => .boolean true
    else if c = 'f' then after (expect ['a', 'l', 's', 'e'] rest) fun _ => .boolean false
    else if c = '"' then after (readString rest) fun (text, _) => .text text
    else if c = '-' ∨ (digit? c).isSome then after (readNumber (c :: rest)) fun (n, _) => n.found
    else if c = '[' then wrong .sequence
    else if c = '\x7b' then wrong .map
    else .malformed

def Form.text : Form String where
  read s :=
    match skipSpace s with
    | '"' :: rest => readString rest
    | s => .error (unwanted .text s)
  take
    | .string s => .ok s
    | v => .error (.wrongType v.found .text)

def Form.boolean : Form Bool where
  read s :=
    match skipSpace s with
    | 't' :: rest => (expect ['r', 'u', 'e'] rest).map fun r => (true, r)
    | 'f' :: rest => (expect ['a', 'l', 's', 'e'] rest).map fun r => (false, r)
    | s => .error (unwanted .boolean s)
  take
    | .bool b => .ok b
    | v => .error (.wrongType v.found .boolean)

def natural : Number → Except Misfit UInt64
  | .integer value =>
    if 0 ≤ value then .ok (UInt64.ofNat value.toNat) else .error (.wrongValue (.integer value) .natural)
  | .double value => .error (.wrongType (.double value) .natural)

def Form.natural : Form UInt64 where
  read s :=
    match skipSpace s with
    | [] => .error .brokenOff
    | c :: rest =>
      if c = '-' ∨ (digit? c).isSome then
        match readNumber (c :: rest) with
        | .error e => .error e
        | .ok (n, r) => ((Json.natural n).mapError misfit).map fun x => (x, r)
      else .error (unwanted .natural (c :: rest))
  take
    | .number n => Json.natural n
    | v => .error (.wrongType v.found .natural)

def Form.unit : Form Unit where
  read s :=
    match skipSpace s with
    | 'n' :: rest => (expect ['u', 'l', 'l'] rest).map fun r => ((), r)
    | s => .error (unwanted .unit s)
  take
    | .null => .ok ()
    | v => .error (.wrongType v.found .unit)

def Form.optional {α : Type} (form : Form α) : Form (Option α) where
  read s :=
    match skipSpace s with
    | 'n' :: rest => (expect ['u', 'l', 'l'] rest).map fun r => (none, r)
    | s => (form.read s).map fun (a, r) => (some a, r)
  take
    | .null => .ok none
    | v => (form.take v).map some

def Form.list {α : Type} (form : Form α) : Form (List α) where
  read s :=
    match skipSpace s with
    | '[' :: rest =>
      (readItems (fun acc s => (form.read s).map fun (a, r) => (a :: acc, r)) [] rest).map
        fun (acc, r) => (acc.reverse, r)
    | s => .error (unwanted .sequence s)
  take
    | .array items => items.mapM form.take
    | v => .error (.wrongType v.found .sequence)

/-- An object whose members all hold data of one kind.  Of members with one name the last stands. -/
def Form.map {α : Type} (form : Form α) : Form (List (String × α)) where
  read s :=
    match skipSpace s with
    | '\x7b' :: rest =>
      readMembers (fun key acc s =>
        match expectColon s with
        | .error e => .error e
        | .ok s => (form.read s).map fun (a, r) => (putMember key a acc, r)) [] rest
    | s => .error (unwanted .map s)
  take
    | .object members =>
      (members.mapM fun (member : String × Value) => (form.take member.2).map fun a => (member.1, a)).map sortMembers
    | v => .error (.wrongType v.found .map)

/-- One of several names: a string, or an object whose one member has that name and the value `null`. -/
def Form.choice {α : Type} (names : List String) (ofName? : String → Option α) : Form α where
  read s :=
    let choose (name : String) : Except Fault α :=
      match ofName? name with
      | some a => .ok a
      | none => .error (.misfit (.unknownChoice name names))
    match skipSpace s with
    | [] => .error .brokenOff
    | '"' :: rest =>
      match readString rest with
      | .error e => .error e
      | .ok (name, rest) => (choose name).map fun a => (a, rest)
    | '\x7b' :: rest =>
      match skipSpace rest with
      | '"' :: rest =>
        match readString rest with
        | .error e => .error e
        | .ok (name, rest) =>
          match choose name with
          | .error e => .error e
          | .ok a =>
            match (expectColon rest).bind Form.unit.read with
            | .error e => .error e
            | .ok ((), rest) =>
              match skipSpace rest with
              | [] => .error .brokenOff
              | c :: rest => if c = '\x7d' then .ok (a, rest) else .error .malformed
      | [] => .error .brokenOff
      | _ :: _ => .error .malformed
    | _ :: _ => .error .malformed
  take v :=
    let choose (name : String) : Except Misfit α :=
      match ofName? name with
      | some a => .ok a
      | none => .error (.unknownChoice name names)
    match v with
    | .string name => choose name
    | .object [(name, payload)] =>
      match choose name with
      | .error e => .error e
      | .ok a => (Form.unit.take payload).map fun _ => a
    | .object _ => .error (.wrongValue .map .singleMember)
    | v => .error (.wrongType v.found .textOrMap)

def Form.checked {α β : Type} (form : Form α) (check : α → Except Misfit β) : Form β where
  read s :=
    match form.read s with
    | .error e => .error e
    | .ok (a, rest) => ((check a).mapError misfit).map fun b => (b, rest)
  take v := (form.take v).bind check

/-- **The data of a text, read straight through.**  Whether anything follows is looked at last. -/
def Form.ofText {α : Type} (form : Form α) (text : String) : Except Fault α :=
  match form.read text.toList with
  | .error e => .error e
  | .ok (a, rest) => (expectEnd rest).map fun _ => a

/-- **The data of a text, taken from its value.** -/
def Form.ofParsedText {α : Type} (form : Form α) (text : String) : Except Fault α :=
  match parse text with
  | .error e => .error e
  | .ok value => (form.take value).mapError misfit

end Json
end SinkReporter
