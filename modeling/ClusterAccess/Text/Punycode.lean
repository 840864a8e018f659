import ClusterAccess.Text.Hex

/-!
# Punycode

A Unicode text as ASCII: its ASCII characters in order, a hyphen, and then one number for each other
character, which counts the steps from the last insertion to this one. A step goes to the next
position, or from the end of the text to its start with the next code point. The base and the
thresholds of the digits adapt to the size of the last number.

## Main definitions

* `encode`: the ASCII form of a text.
* `decode?`: the text of an ASCII form.
-/
namespace ClusterAccess.Text.Punycode

/-- The digits `a–z`, then `0–9`. -/
def digit (n : Nat) : Char := if n < 26 then Char.ofNat (97 + n) else Char.ofNat (22 + n)

def digitValue? (c : Char) : Option Nat :=
  let n := c.toNat
  if 97 ≤ n && n ≤ 122 then some (n - 97)
  else if 65 ≤ n && n ≤ 90 then some (n - 65)
  else if 48 ≤ n && n ≤ 57 then some (n - 22)
  else none

/-- A digit below the threshold of its place is the last one. -/
def threshold (bias place : Nat) : Nat := min 26 (max 1 (36 * (place + 1) - bias))

theorem one_le_threshold (bias place : Nat) : 1 ≤ threshold bias place := by
  simp only [threshold]
  omega

/-- The places that a number of this size takes, as a bias. -/
def scaled (delta : Nat) : Nat :=
  if 455 < delta then 36 + scaled (delta / 35) else 36 * delta / (delta + 38)
termination_by delta

/-- The bias after a number, with the count of characters that are inserted by then. -/
def adapt (delta count : Nat) (isFirst : Bool) : Nat :=
  let delta := if isFirst then delta / 700 else delta / 2
  scaled (delta + delta / count)

/-- A number from its lowest digit on. -/
def number (bias place n : Nat) : List Char :=
  let t := threshold bias place
  if n < t then [digit n]
  else digit (t + (n - t) % (36 - t)) :: number bias (place + 1) ((n - t) / (36 - t))
termination_by n
decreasing_by
  have := one_le_threshold bias place
  have := Nat.div_le_self (n - threshold bias place) (36 - threshold bias place)
  omega

/-- A writer between two numbers. -/
structure Writer where
  /-- The code point whose occurrences are written. -/
  point : Nat := 128
  /-- The steps since the last number. -/
  delta : Nat := 0
  bias : Nat := 72
  /-- The characters that the reader will know. -/
  known : Nat
  output : List Char := []

/-- Passes a position of the text. -/
def Writer.pass (first : Nat) (w : Writer) (c : Char) : Writer :=
  if c.toNat < w.point then { w with delta := w.delta + 1 }
  else if c.toNat = w.point then
    { w with
      output := w.output ++ number w.bias 0 w.delta
      bias := adapt w.delta (w.known + 1) (w.known == first)
      delta := 0
      known := w.known + 1 }
  else w

/-- Goes to a later code point and passes the text once. -/
def Writer.round (first : Nat) (text : List Char) (w : Writer) (point : Nat) : Writer :=
  let w := { w with delta := w.delta + (point - w.point) * (w.known + 1), point }
  let w := text.foldl (Writer.pass first) w
  { w with delta := w.delta + 1, point := point + 1 }

def isAscii (c : Char) : Bool := c.toNat < 128

def encode (text : List Char) : List Char :=
  let ascii := text.filter isAscii
  let points := ((text.filter fun c => !isAscii c).map Char.toNat).mergeSort.eraseDups
  let w := points.foldl (Writer.round ascii.length text) { known := ascii.length }
  ascii ++ (if ascii.isEmpty then [] else ['-']) ++ w.output

/-- A reader within a number. -/
structure Reader where
  point : Nat := 128
  bias : Nat := 72
  /-- Where the last insertion was, and the steps read since. -/
  index : Nat := 0
  /-- The index at the start of the number. -/
  start : Nat := 0
  place : Nat := 0
  weight : Nat := 1
  output : List Char

/-- Reads a digit, and inserts a character at the end of a number. The weights of digits have 32
bits. -/
def Reader.read? (r : Reader) (c : Char) : Option Reader := do
  let d ← digitValue? c
  let index := r.index + d * r.weight
  let t := threshold r.bias r.place
  if d < t then
    let count := r.output.length + 1
    let point := r.point + index / count
    let index := index % count
    if point.isValidChar then
      some
        { point, index := index + 1, start := index + 1
          bias := adapt (r.index + d * r.weight - r.start) count (r.start == 0)
          output := r.output.insertIdx index (Char.ofNat point) }
    else none
  else if r.weight * (36 - t) < UInt32.size then
    some { r with index, place := r.place + 1, weight := r.weight * (36 - t) }
  else none

/-- The text of an ASCII form, whose numbers follow its last hyphen. No hyphen stands for itself
alone. -/
def decode? (form : List Char) : Option (List Char) := do
  let numbers := (form.reverse.takeWhile (· != '-')).reverse
  let ascii := form.take (form.length - numbers.length - 1)
  guard (form.head? != some '-' || !ascii.isEmpty)
  let r ← numbers.foldlM Reader.read? { output := ascii }
  if r.place = 0 then some r.output else none

end ClusterAccess.Text.Punycode
