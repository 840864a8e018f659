/-!
# Decimal numerals

## Main definitions

* `digit?`: the value of a decimal digit.
* `natural?`: the number a text of digits denotes.
* `bounded?`: a number up to a limit, with a plus sign allowed in front.
* `integer?`: a whole number with or without a sign.
* `padded`: a number with leading zeros.
-/
namespace ClusterAccess.Text.Numeral

def digit? (c : Char) : Option Nat :=
  if '0' ≤ c ∧ c ≤ '9' then some (c.toNat - 48) else none

def isDigit (c : Char) : Bool := '0' ≤ c && c ≤ '9'

/-- The number that digits denote, given the number the ones before them denote. -/
def value (start : Nat) (digits : List Char) : Nat :=
  digits.foldl (fun n c => 10 * n + (c.toNat - 48)) start

def natural? (s : List Char) : Option Nat :=
  if s.isEmpty then none else if s.all isDigit then some (value 0 s) else none

/-- A numeral up to `limit`, as ports and counts are written by hand. -/
def bounded? (limit : Nat) (s : String) : Option Nat :=
  let digits := match s.toList with
    | '+' :: rest => rest
    | all => all
  match natural? digits with
  | some n => if n ≤ limit then some n else none
  | none => none

/-- A whole number, with a sign or without. -/
def integer? : List Char → Option Int
  | '-' :: digits => (natural? digits).map fun n => -n
  | '+' :: digits => (natural? digits).map fun n => n
  | digits => (natural? digits).map fun n => n

def padded (width n : Nat) : List Char :=
  let digits := Nat.toDigits 10 n
  List.replicate (width - digits.length) '0' ++ digits

end ClusterAccess.Text.Numeral
