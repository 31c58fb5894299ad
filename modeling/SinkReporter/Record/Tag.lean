import SinkReporter.Record.InvalidArgument
import SinkReporter.Json.Record
/-!
# Record.Tag — pairs of strings attached to a result

Tags come as `key=value` texts, as lists of pairs in loosely typed JSON, and as objects or pairs inside a record.  Their
order is kept, and a key may come more than once.
-/
namespace SinkReporter

open Json (Value Form)

/-- A pair of strings attached to a result. -/
structure Tag where
  key : String
  value : String
  deriving DecidableEq, Repr

namespace Tag

def splitAtEquals : List Char → Option (List Char × List Char)
  | [] => none
  | c :: rest => if c = '=' then some ([], rest) else (splitAtEquals rest).map fun (key, value) => (c :: key, value)

/-- **A tag written `key=value`**; further equals signs belong to the value. -/
def ofText (text : String) : Except InvalidArgument Tag :=
  match splitAtEquals text.toList with
  | some (key, value) => .ok ⟨String.ofList key, String.ofList value⟩
  | none => .error (.tagWithoutEquals text)

/-- A tag as a pair of strings; `index` is where it stands in its list. -/
def ofPair (index : Nat) : Value → Except InvalidArgument Tag
  | .array [.string key, .string value] => .ok ⟨key, value⟩
  | .array [a, b] => .error (.tagNoStrings index (.array [a, b]))
  | .array items => .error (.tagLength index items.length)
  | found => .error (.tagNoPair index found)

def ofPairs : Nat → List Value → Except InvalidArgument (List Tag)
  | _, [] => .ok []
  | index, pair :: rest =>
    match ofPair index pair with
    | .error e => .error e
    | .ok tag => (ofPairs (index + 1) rest).map (tag :: ·)

/-- **The tags of a list of pairs**; the first bad pair is reported. -/
def listOfValue : Value → Except InvalidArgument (List Tag)
  | .array pairs => ofPairs 0 pairs
  | found => .error (.tagsNoList found)

def document (tag : Tag) : Value := .object [("key", .string tag.key), ("value", .string tag.value)]

structure Draft where
  key : Option String
  value : Option String

def record : Json.Record Draft Tag where
  name := "Tag"
  fields := [
    .of "key" .text Draft.key (fun d key => { d with key := some key }) false,
    .of "value" .text Draft.value (fun d value => { d with value := some value }) false]
  exact := false
  blank := ⟨none, none⟩
  finish := fun d => do
    let key ← Json.need "key" d.key
    let value ← Json.need "value" d.value
    return ⟨key, value⟩

/-- How a tag is read: an object with the two members, or an array of the two strings. -/
def form : Form Tag := record.form

end Tag

/-! ## Operations on a list of tags -/

inductive TagChange where
  | push (tag : Tag)
  | pushText (text : String)
  | extend (tags : List Tag)
  | extendJson (text : String)
  | extendSelf
  | reset

inductive TagFault where
  | json (fault : Json.Fault)
  | argument (cause : InvalidArgument)

def Tag.listOfJson (text : String) : Except TagFault (List Tag) :=
  match Json.parse text with
  | .error e => .error (.json e)
  | .ok value => (Tag.listOfValue value).mapError .argument

/-- **One change to a list of tags.** -/
def TagChange.apply (tags : List Tag) : TagChange → Except TagFault (List Tag)
  | .push tag => .ok (tags ++ [tag])
  | .pushText text => ((Tag.ofText text).map fun tag => tags ++ [tag]).mapError .argument
  | .extend more => .ok (tags ++ more)
  | .extendJson text => (Tag.listOfJson text).map (tags ++ ·)
  | .extendSelf => .ok (tags ++ tags)
  | .reset => .ok []

/-- The list after a change; a refused change leaves it as it was. -/
def TagChange.after (tags : List Tag) (change : TagChange) : List Tag :=
  match change.apply tags with
  | .ok tags => tags
  | .error _ => tags

end SinkReporter
