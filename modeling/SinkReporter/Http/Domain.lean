import SinkReporter.Http.Domain.Joining
import SinkReporter.Text.Punycode
import SinkReporter.Text.Utf8
/-!
# Http.Domain — names of hosts in characters of any script

A name is looked up in ASCII.  Its characters are taken for what they stand for and put together with their marks; each
part between dots that still has others than ASCII characters is then written in letters, digits and hyphens behind a
sign.  A part that bears the sign already is read back and must be one that would be written so.
-/
namespace SinkReporter
namespace Http
namespace Domain

def spacingMarks : Text.CodeSet := .ofLines
  ["903 93B 93E-94F 982-983 9BF-9CC A03 A3E-A40 A83 ABE-ACC B02-B03 B40-B4C BBF-BCC C01-C03 C41-C44 C82-C83",
   "CBE-CC4 CF3-D03 D3F-D4C D82-D83 DD0-DDE DF2-DF3 F3E-F3F F7F 102B-103C 1056-1057 1062-1064 1067-106D 1083-108C",
   "108F 109A-109C 17B6-17C8 1923-1938 1A19-1A1A 1A55-1A72 1B04 1B3E-1B41 1B82 1BA1-1BA7 1BE7-1BEE 1C24-1C35 1CE1",
   "1CF7 A823-A827 A880-A881 A8B4-A8C3 A952 A983 A9B4-A9BF AA2F-AA34 AA4D AA7B-AA7D AAEB-AAEF AAF5 ABE3-ABEA ABEC",
   "11000-11002 11082 110B0-110B8 1112C 11145-11146 11182 111B3-111BF 111CE 1122C-11233 112E0-112E2 11302-11303",
   "1133F-1134C 11362-11363 113B9-113CD 11435-11445 114B1-114C1 115B0-115BE 11630-1163E 116AC-116AF 1171E-11726",
   "1182C-11838 11931-11938 11940 11942 119D1-119DF 119E4 11A39 11A57-11A58 11A97 11B61-11B67 11C2F-11C3E",
   "11CA9-11CB4 11D8A-11D96 11EF5-11EF6 11F03 11F34-11F3F 1612A-1612C 16F51-16F87"]

def isMark (code : Nat) : Bool := Text.inRanges Text.extendingRanges code || spacingMarks.contains code

def isForbidden (code : Nat) : Bool :=
  code ≤ 0x20 || code = 0x7F ||
    (['#', '/', ':', '<', '>', '?', '@', '[', '\\', ']', '^', '|', '%'].map Char.toNat).contains code

def sign : List Nat := "xn--".toList.map Char.toNat

def isPlain (label : List Nat) : Bool := label.all (· < 128)

def isSound (label : List Nat) : Bool := !label.head?.any isMark && joinersStand [] label

def isSettled (label : List Nat) : Bool :=
  !isPlain label && label.all (fun code => taken? code = some [code]) && composed label = label

def readLabel? (label : List Nat) : Option (List Nat) :=
  if sign.isPrefixOf label then
    if !isPlain label then none
    else
      ((Text.Punycode.decode? ((label.drop sign.length).map Char.ofNat)).map (·.map Char.toNat)).filter
        fun text => isSettled text && isSound text
  else if isSound label then some label
  else none

def writeLabel (label : List Nat) : List Nat :=
  if isPlain label then label else sign ++ (Text.Punycode.encode (label.map Char.ofNat)).map Char.toNat

def labels (codes : List Nat) : List (List Nat) :=
  (Text.splitWhere (· = '.') (codes.map Char.ofNat)).map (·.map Char.toNat)

/-- **The name that is looked up** for one that is given, if there can be such a name. -/
def lookedUp? (name : String) : Option String :=
  match (name.toList.map Char.toNat).mapM taken? with
  | none => none
  | some images =>
    let codes := composed images.flatten
    if codes.any isForbidden then none
    else
      match (labels codes).mapM readLabel? with
      | none => none
      | some parts =>
        if areLegible parts then
          some (String.intercalate "." (parts.map fun part => String.ofList ((writeLabel part).map Char.ofNat)))
        else none

end Domain
end Http
end SinkReporter
