import ClusterAccess.Url.Basic
import ClusterAccess.Url.Domain
import ClusterAccess.Url.Escape

/-!
# Hosts of URLs

## Main definitions

* `Fault`: why a text is no URL.
* `parseDomain`: the host of a special URL.
* `parseName`: the host of any other URL.
-/
namespace ClusterAccess.Url

inductive Fault where
  | relative
  | emptyHost
  | invalidDomain
  | invalidDomainCharacter
  | invalidPort
  | invalidV4
  | invalidV6
  deriving DecidableEq, Repr

def Fault.message : Fault → String
  | .relative => "relative URL without a base"
  | .emptyHost => "empty host"
  | .invalidDomain => "invalid international domain name"
  | .invalidDomainCharacter => "invalid domain character"
  | .invalidPort => "invalid port number"
  | .invalidV4 => "invalid IPv4 address"
  | .invalidV6 => "invalid IPv6 address"

/-- A numeral in an address: octal after `0`, hexadecimal after `0x`. The inner value is missing if
the number is too large for an address. -/
def addressNumber? (s : List Char) : Option (Option Nat) :=
  let (base, digits) := match s with
    | '0' :: 'x' :: rest => (16, rest)
    | '0' :: 'X' :: rest => (16, rest)
    | '0' :: d :: rest => (8, d :: rest)
    | _ => (10, s)
  if s.isEmpty then none
  else digits.foldl (fun n c => match n, Text.Hex.digitValue? c with
    | some (some n), some d =>
      if d < base then some (if base * n + d < UInt32.size then some (base * n + d) else none)
      else none
    | some none, some d => if d < base then some none else none
    | _, _ => none) (some (some 0))

/-- The parts of a host name, without an empty one at the end. -/
def hostParts (s : List Char) : List (List Char) :=
  let parts := s.splitOn '.'
  if 1 < parts.length && parts.getLast? == some [] then parts.dropLast else parts

/-- Whether a host name has to be an address, by its last part. -/
def endsInNumber (s : List Char) : Bool :=
  match (hostParts s).getLast? with
  | some last =>
    !last.isEmpty && (last.all Text.Numeral.isDigit || (addressNumber? last).isSome)
  | none => false

/-- Numbers below 256, of which the last fills all the bytes that are left. -/
def joinNumbers : List Nat → Nat → Option Nat
  | [], _ => none
  | [last], room => if last < Nat.pow 256 room then some last else none
  | n :: rest, room + 1 =>
    if n < 256 then (joinNumbers rest room).map (n * Nat.pow 256 room + ·) else none
  | _, 0 => none

def hostAddress? (s : List Char) : Option Net.Address := do
  let numbers ← (hostParts s).mapM fun part => (addressNumber? part).join
  let n ← joinNumbers numbers 4
  let byte (i : Nat) : UInt8 := UInt8.ofNat (n >>> (8 * i))
  some (.v4 (byte 3) (byte 2) (byte 1) (byte 0))

/-- Characters that no host of any other URL may have. -/
def isForbiddenInHost (c : Char) : Bool :=
  c == '\x00' || c == '\t' || c == '\n' || c == '\r' || c == ' ' || c == '#' || c == '/' ||
    c == ':' || c == '<' || c == '>' || c == '?' || c == '@' || c == '[' || c == '\\' ||
    c == ']' || c == '^' || c == '|'

/-- An address between brackets. -/
def bracketed (s : List Char) : Except Fault Host :=
  if 1 < s.length && s.getLast? == some ']' then
    match Net.parseV6? (s.drop 1).dropLast with
    | some a => .ok (.address a)
    | none => .error .invalidV6
  else .error .invalidV6

/-- The host of a special URL: a domain in ASCII, or an address. -/
def parseDomain (s : List Char) : Except Fault Host :=
  if s.head? == some '[' then bracketed s
  else match (Text.decode? (Text.Percent.decodeBytes s)).bind asciiDomain? with
    | none => .error .invalidDomain
    | some name =>
      if name.isEmpty then .error .emptyHost
      else if endsInNumber name then
        match hostAddress? name with
        | some a => .ok (.address a)
        | none => .error .invalidV4
      else .ok (.domain (String.ofList name))

/-- The host of any other URL: an address, or a text kept as it is. -/
def parseName (s : List Char) : Except Fault Host :=
  if s.head? == some '[' then bracketed s
  else if s.any isForbiddenInHost then .error .invalidDomainCharacter
  else .ok (.domain (encoded keepsAll s))

end ClusterAccess.Url
