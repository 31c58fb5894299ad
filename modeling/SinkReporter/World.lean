import SinkReporter.Text.Utf8
/-!
# World — the environment and the files that a program finds

Both are looked at and never changed.  Names of variables are texts; their values, paths and the contents of files are
bytes, which need not spell a text.
-/
namespace SinkReporter

inductive FileFault where
  | notFound
  | notDirectory
  | isDirectory
  | nameTooLong
  | zeroInPath
  | notText
  | other (message : String)

def FileFault.message : FileFault → String
  | .notFound => "No such file or directory (os error 2)"
  | .notDirectory => "Not a directory (os error 20)"
  | .isDirectory => "Is a directory (os error 21)"
  | .nameTooLong => "File name too long (os error 36)"
  | .zeroInPath => "file name contained an unexpected NUL byte"
  | .notText => "stream did not contain valid UTF-8"
  | .other message => message

/-- What a program finds: the values of environment variables, and what reading a file gives. -/
structure World where
  value? : String → Option Bytes
  read : Bytes → Except FileFault Bytes

namespace World

/-- **The value of a variable** among entries that are written `name=value`.  What is looked for has to stand before
one of the equals signs of an entry; nothing is found under an empty name. -/
def valueIn (entries : List (String × Bytes)) (name : String) : Option Bytes :=
  let wanted := Text.bytes name ++ [61]
  if name = "" ∨ name.contains '\x00' then none
  else
    (entries.map fun entry => Text.bytes entry.1 ++ 61 :: entry.2).findSome? fun entry =>
      if wanted.isPrefixOf entry then some (entry.drop wanted.length) else none

def text? (w : World) (name : String) : Option String := (w.value? name).bind Text.ofBytes?

def path? (w : World) (name : String) : Option Bytes := (w.value? name).filter (· ≠ [])

def readText (w : World) (path : Bytes) : Except FileFault String :=
  match w.read path with
  | .error e => .error e
  | .ok data =>
    match Text.ofBytes? data with
    | some text => .ok text
    | none => .error .notText

end World

/-! ## Files laid out in advance -/

inductive FileEntry where
  | directory
  | file (content : Bytes)

/-- Files and directories by the names that lead to them from the root, and the directory that relative paths start
from.  The root is a directory of its own accord. -/
structure FileTree where
  entries : List (List Bytes × FileEntry)
  start : List Bytes

namespace FileTree

def entry? (tree : FileTree) (place : List Bytes) : Option FileEntry :=
  if place = [] then some .directory else (tree.entries.find? (·.1 = place)).map (·.2)

def steps : Bytes → List Bytes
  | [] => [[]]
  | b :: rest =>
    if b = 47 then [] :: steps rest
    else
      match steps rest with
      | [] => [[b]]
      | first :: others => (b :: first) :: others

/-- Goes from a place, which holds `entry`, along the steps of a path. -/
def walk (tree : FileTree) : List Bytes → FileEntry → List Bytes → Except FileFault FileEntry
  | _, entry, [] => .ok entry
  | _, .file _, _ :: _ => .error .notDirectory
  | place, .directory, step :: rest =>
    if step = [] ∨ step = [46] then tree.walk place .directory rest
    else if step = [46, 46] then tree.walk place.dropLast .directory rest
    else if 255 < step.length then .error .nameTooLong
    else
      match tree.entry? (place ++ [step]) with
      | none => .error .notFound
      | some entry => tree.walk (place ++ [step]) entry rest

/-- **The content of the file at a path.** -/
def read (tree : FileTree) (path : Bytes) : Except FileFault Bytes :=
  if path = [] then .error .notFound
  else if path.contains 0 then .error .zeroInPath
  else if 4096 ≤ path.length then .error .nameTooLong
  else
    let place := if path.head? = some 47 then [] else tree.start
    match tree.walk place .directory (steps path) with
    | .error e => .error e
    | .ok .directory => .error .isDirectory
    | .ok (.file content) => .ok content

end FileTree
end SinkReporter
