import ClusterAccess.Text.Hex

/-!
# Charts of characters

A chart lists code points in hexadecimal, in words with blanks between them. `41-5A` stands for a
run of characters, and `100-12E/2` for every second one of a run. A word of a chart of meanings goes
on with `=` and the code points of a meaning, or with `>` and the meaning of the first character of
the run, after which the meanings go up with the characters.

## Main definitions

* `Charset.read`, `Charset.contains`: sets of characters.
* `Meanings.read`, `Meanings.find?`: what characters stand for.
-/
namespace ClusterAccess.Text

/-- Every `step`-th character from the first one to the last. -/
structure Run where
  first : Nat
  last : Nat
  step : Nat
  deriving DecidableEq, Repr

def Run.contains (r : Run) (c : Char) : Bool :=
  r.first ≤ c.toNat && c.toNat ≤ r.last && (c.toNat - r.first) % r.step == 0

/-- A number in hexadecimal digits. -/
def codePoint (digits : List Char) : Nat :=
  digits.foldl (fun n c => 16 * n + (Hex.digitValue? c).getD 0) 0

def Run.read (word : List Char) : Run :=
  let (ends, step) := match word.splitOn '/' with
    | [ends, step] => (ends, codePoint step)
    | _ => (word, 1)
  match ends.splitOn '-' with
  | [first, last] => ⟨codePoint first, codePoint last, step⟩
  | _ => ⟨codePoint ends, codePoint ends, step⟩

/-- The words of a chart, which may have several lines. -/
def chartWords (chart : String) : List (List Char) :=
  ((chart.toList.map fun c => if c = '\n' then ' ' else c).splitOn ' ').filter (!·.isEmpty)

/-- A set of characters. -/
structure Charset where
  runs : List Run
  deriving DecidableEq, Repr

def Charset.read (chart : String) : Charset := ⟨(chartWords chart).map Run.read⟩

def Charset.contains (s : Charset) (c : Char) : Bool := s.runs.any (·.contains c)

/-- The meaning of all characters of a run. -/
structure Meaning where
  run : Run
  /-- What the first character stands for. -/
  text : List Nat
  /-- Whether the meaning goes up with the characters. -/
  moves : Bool
  deriving DecidableEq, Repr

def Meaning.read (word : List Char) : Meaning :=
  match word.splitOn '>' with
  | [run, text] => ⟨Run.read run, [codePoint text], true⟩
  | _ => match word.splitOn '=' with
    | [run, text] => ⟨Run.read run, (text.splitOn '.').map codePoint, false⟩
    | _ => ⟨Run.read word, [], false⟩

def Meaning.apply (m : Meaning) (c : Char) : List Char :=
  m.text.map fun n => Char.ofNat (if m.moves then n + (c.toNat - m.run.first) else n)

/-- What some characters stand for. -/
structure Meanings where
  entries : List Meaning
  deriving DecidableEq, Repr

def Meanings.read (chart : String) : Meanings := ⟨(chartWords chart).map Meaning.read⟩

def Meanings.find? (t : Meanings) (c : Char) : Option (List Char) :=
  (t.entries.find? (·.run.contains c)).map (·.apply c)

end ClusterAccess.Text
