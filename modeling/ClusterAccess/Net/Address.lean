import ClusterAccess.Text.Hex
import ClusterAccess.Text.Numeral

/-!
# Network addresses

## Main definitions

* `Address`: an address of either version of the Internet Protocol.
* `Address.bytes`: its bytes, most significant first.
* `parseV4?`, `parseV6?`, `Address.parse?`: addresses in their usual written forms.
* `renderV6`, `renderMapped`: an address with its longest run of zeros left out.
-/
namespace ClusterAccess.Net

inductive Address where
  | v4 (a b c d : UInt8)
  /-- Eight pieces of sixteen bits. -/
  | v6 (pieces : List UInt16)
  deriving DecidableEq, Repr

def pieceBytes (p : UInt16) : List UInt8 :=
  [UInt8.ofNat (p.toNat / 256), UInt8.ofNat (p.toNat % 256)]

def Address.bytes : Address → List UInt8
  | .v4 a b c d => [a, b, c, d]
  | .v6 pieces => pieces.flatMap pieceBytes

/-- A number below 256 in at most three digits without leading zeros. -/
def octet? (s : List Char) : Option UInt8 :=
  match Text.Numeral.natural? s with
  | some n =>
    if n < 256 && s.length ≤ 3 && (s.length = 1 || s.head? != some '0') then some (UInt8.ofNat n)
    else none
  | none => none

/-- Four numbers between points. -/
def parseV4? (s : List Char) : Option Address :=
  match (s.splitOn '.').map octet? with
  | [some a, some b, some c, some d] => some (.v4 a b c d)
  | _ => none

/-- One to four hexadecimal digits. -/
def group? (s : List Char) : Option UInt16 :=
  if s.isEmpty || 4 < s.length then none
  else s.foldl (fun n c => match n, Text.Hex.digitValue? c with
    | some n, some d => some (16 * n + UInt16.ofNat d)
    | _, _ => none) (some 0)

/-- Groups between colons; the last may be an address of version 4. -/
def groups? : List (List Char) → Option (List UInt16)
  | [] => some []
  | [last] =>
    match parseV4? last with
    | some (.v4 a b c d) =>
      some [256 * a.toUInt16 + b.toUInt16, 256 * c.toUInt16 + d.toUInt16]
    | _ => (group? last).map fun p => [p]
  | group :: rest =>
    match group? group, groups? rest with
    | some p, some pieces => some (p :: pieces)
    | _, _ => none

/-- All groups of a text, which may be empty. -/
def side? (s : List Char) : Option (List UInt16) :=
  if s.isEmpty then some [] else groups? (s.splitOn ':')

/-- A text cut at its first double colon. -/
def cutAtGap : List Char → Option (List Char × List Char)
  | ':' :: ':' :: rest => some ([], rest)
  | c :: rest => (cutAtGap rest).map fun (left, right) => (c :: left, right)
  | [] => none

/-- Eight groups, or fewer with a double colon in place of one or more zeros. -/
def parseV6? (s : List Char) : Option Address :=
  match cutAtGap s with
  | none =>
    match side? s with
    | some pieces => if pieces.length = 8 then some (.v6 pieces) else none
    | none => none
  | some (left, right) =>
    -- an address of version 4 may only stand at the very end
    if left.contains '.' then none
    else match side? left, side? right with
      | some before, some after =>
        if before.length + after.length ≤ 7 then
          some (.v6 (before ++ List.replicate (8 - before.length - after.length) 0 ++ after))
        else none
      | _, _ => none

def Address.parse? (s : List Char) : Option Address := (parseV4? s).or (parseV6? s)

def renderV4 (a b c d : UInt8) : String :=
  ".".intercalate ([a, b, c, d].map fun n => toString n.toNat)

/-- How many zeros a list begins with. -/
def zeroRun (pieces : List UInt16) : Nat := (pieces.takeWhile (· == 0)).length

/-- The place and length of the first longest run of zeros, from place `at` on. -/
def longestRun (pieces : List UInt16) (place : Nat) (best : Nat × Nat) : Nat × Nat :=
  match pieces with
  | [] => best
  | p :: rest =>
    let run := zeroRun (p :: rest)
    longestRun rest (place + 1) (if best.2 < run then (place, run) else best)

def renderPieces (pieces : List UInt16) : List Char :=
  List.intercalate [':'] (pieces.map fun p => Text.Hex.natural p.toNat)

/-- The pieces in lower-case digits, with the first longest run of two or more zeros left out. -/
def renderV6 (pieces : List UInt16) : String :=
  let (place, run) := longestRun pieces 0 (0, 0)
  String.ofList <|
    if run < 2 then renderPieces pieces
    else renderPieces (pieces.take place) ++ [':', ':'] ++ renderPieces (pieces.drop (place + run))

/-- The pieces, of which the last two keep the form of version 4 if the address stands for one of
that version. -/
def renderMapped (pieces : List UInt16) : String :=
  match pieces with
  | [0, 0, 0, 0, 0, 0xFFFF, high, low] =>
    match pieceBytes high ++ pieceBytes low with
    | [a, b, c, d] => "::ffff:" ++ renderV4 a b c d
    | _ => renderV6 pieces
  | _ => renderV6 pieces

def Address.render : Address → String
  | .v4 a b c d => renderV4 a b c d
  | .v6 pieces => renderV6 pieces

example : (Address.parse? "::ffff:1.2.3.4".toList).map Address.render = some "::ffff:102:304" := by
  decide +kernel

end ClusterAccess.Net
