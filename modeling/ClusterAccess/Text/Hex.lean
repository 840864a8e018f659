/-!
# Hexadecimal digits

## Main definitions

* `lowerDigit`, `upperDigit`: the digit of a number below sixteen.
* `digitValue?`: the value of a digit in either case.
* `natural`: a number in lower-case digits.
* `ofBytes`, `toBytes?`: bytes as two lower-case digits each, and back.
-/
namespace ClusterAccess.Text.Hex

def lowerDigit (n : Nat) : Char :=
  if n < 10 then Char.ofNat (48 + n) else Char.ofNat (87 + n)

def upperDigit (n : Nat) : Char :=
  if n < 10 then Char.ofNat (48 + n) else Char.ofNat (55 + n)

def digitValue? (c : Char) : Option Nat :=
  let n := c.toNat
  if 48 ≤ n && n ≤ 57 then some (n - 48)
  else if 97 ≤ n && n ≤ 102 then some (n - 87)
  else if 65 ≤ n && n ≤ 70 then some (n - 55)
  else none

/-- A number without leading zeros. -/
def natural (n : Nat) : List Char := Nat.toDigits 16 n

def byte (b : UInt8) : List Char :=
  [lowerDigit (b.toNat / 16), lowerDigit (b.toNat % 16)]

def ofBytes (bytes : List UInt8) : List Char := bytes.flatMap byte

def toBytes? : List Char → Option (List UInt8)
  | [] => some []
  | a :: b :: rest =>
    match digitValue? a, digitValue? b, toBytes? rest with
    | some x, some y, some bytes => some (UInt8.ofNat (16 * x + y) :: bytes)
    | _, _, _ => none
  | _ => none

/-- A number in at least `width` digits. -/
def padded (width n : Nat) : List Char :=
  let digits := natural n
  List.replicate (width - digits.length) '0' ++ digits

theorem digitValue?_lowerDigit : ∀ n < 16, digitValue? (lowerDigit n) = some n := by decide

theorem digitValue?_upperDigit : ∀ n < 16, digitValue? (upperDigit n) = some n := by decide

end ClusterAccess.Text.Hex
