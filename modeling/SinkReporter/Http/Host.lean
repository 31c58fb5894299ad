import SinkReporter.Http.Domain
import SinkReporter.Http.Ipv6
import SinkReporter.Http.Percent
/-!
# Http.Host — the host of an address

A host has a name or a number.  A name whose last part is a number is a number written in the old way: up to four parts
in decimal, octal or hexadecimal, the last of which fills up what is left of the four bytes.
-/
namespace SinkReporter
namespace Http

inductive Host where
  | named (name : String)
  | ipv4 (number : Nat)
  | ipv6 (number : Ipv6)
  deriving DecidableEq, Repr

inductive HostFault where
  | empty
  | wrongName
  | wrongCharacter
  | wrongIpv4
  | wrongIpv6
  deriving DecidableEq, Repr

def HostFault.message : HostFault → String
  | .empty => "empty host"
  | .wrongName => "invalid international domain name"
  | .wrongCharacter => "invalid domain character"
  | .wrongIpv4 => "invalid IPv4 address"
  | .wrongIpv6 => "invalid IPv6 address"

namespace Host

def dotted (n : Nat) : String :=
  String.intercalate "." ([n / 0x1000000 % 256, n / 0x10000 % 256, n / 0x100 % 256, n % 256].map toString)

/-- **The text of a host** in an address. -/
def text : Host → String
  | .named name => name
  | .ipv4 number => dotted number
  | .ipv6 number => "[" ++ number.text ++ "]"

def lookupName : Host → String
  | .ipv6 number => number.text
  | host => host.text

/-! ## Numbers in the old way -/

/-- A part of a host as a number: decimal, or octal or hexadecimal by its first characters. -/
def numberOf (s : List Char) : Option Nat :=
  match s with
  | ['0', 'x'] => some 0
  | ['0', 'X'] => some 0
  | '0' :: 'x' :: rest => Text.numeral? 16 rest
  | '0' :: 'X' :: rest => Text.numeral? 16 rest
  | '0' :: c :: rest => Text.numeral? 8 (c :: rest)
  | _ => Text.numeral? 10 s

def partsOf (name : String) : List (List Char) :=
  let parts := Text.splitWhere (· = '.') name.toList
  if parts.getLast? = some [] ∧ 1 < parts.length then parts.dropLast else parts

def endsInNumber (parts : List (List Char)) : Bool :=
  match parts.getLast? with
  | none => false
  | some last => !last.isEmpty && (last.all Char.isDigit || (numberOf last).isSome)

/-- The number whose parts are given, the last one filling up the four bytes. -/
def numberOfParts? (parts : List (List Char)) : Option Nat :=
  match parts.mapM numberOf with
  | none => none
  | some numbers =>
    let count := numbers.length
    let last := numbers.getLast?.getD 0
    let front := numbers.dropLast
    if count ≤ 4 ∧ front.all (· < 256) ∧ last < Nat.pow 256 (5 - count) then
      some (front.foldl (fun n x => n * 256 + x) 0 * Nat.pow 256 (5 - count) + last)
    else none

/-! ## Reading -/

def bracketed (s : List Char) : Except HostFault Host :=
  match s.getLast?, Ipv6.parse (s.drop 1).dropLast with
  | some ']', some number => .ok (.ipv6 number)
  | _, _ => .error .wrongIpv6

/-- **The host of the web in a text.** -/
def parse (s : List Char) : Except HostFault Host :=
  if s.head? = some '[' then bracketed s
  else
    match (Text.ofBytes? (Percent.decode s)).bind Domain.lookedUp? with
    | none => .error .wrongName
    | some name =>
      if name = "" then .error .empty
      else
        let parts := partsOf name
        if endsInNumber parts then
          match numberOfParts? parts with
          | some number => .ok (.ipv4 number)
          | none => .error .wrongIpv4
        else .ok (.named name)

def isForbidden (c : Char) : Bool :=
  ['\x00', '\t', '\n', '\r', ' ', '#', '/', ':', '<', '>', '?', '@', '[', '\\', ']', '^', '|'].contains c

def parseOpaque (s : List Char) : Except HostFault Host :=
  if s.head? = some '[' then bracketed s
  else if s.any isForbidden then .error .wrongCharacter
  else .ok (.named (Percent.encode Percent.isOutside s))

end Host
end Http
end SinkReporter
