import SinkReporter.Json.Number
/-!
# Json.Value — the data a JSON text stands for

Objects are lists of members.  A value is canonical when each object names every member once, in the order of the names;
reading yields canonical values, and `canonical` makes one of any value.
-/
namespace SinkReporter
namespace Json

/-- The data of a JSON text. -/
inductive Value where
  | null
  | bool (b : Bool)
  | number (n : Number)
  | string (s : String)
  | array (items : List Value)
  | object (members : List (String × Value))

instance : Inhabited Value := ⟨.null⟩

/-- Puts a member in its place among members in the order of their names; an earlier one of that name gives way. -/
def putMember {β : Type} (key : String) (value : β) : List (String × β) → List (String × β)
  | [] => [(key, value)]
  | (k, v) :: rest =>
    if key < k then (key, value) :: (k, v) :: rest
    else if key = k then (key, value) :: rest
    else (k, v) :: putMember key value rest

def sortMembers {β : Type} (members : List (String × β)) : List (String × β) :=
  members.foldl (fun sorted (key, value) => putMember key value sorted) []

mutual
/-- **The same data with every object in order.** -/
def Value.canonical : Value → Value
  | .null => .null
  | .bool b => .bool b
  | .number n => .number n
  | .string s => .string s
  | .array items => .array (canonicalItems items)
  | .object members => .object (sortMembers (canonicalMembers members))

def canonicalItems : List Value → List Value
  | [] => []
  | item :: rest => item.canonical :: canonicalItems rest

def canonicalMembers : List (String × Value) → List (String × Value)
  | [] => []
  | (key, value) :: rest => (key, value.canonical) :: canonicalMembers rest
end

end Json
end SinkReporter
