import ClusterAccess.Text.Percent

/-!
# Heads of HTTP messages

The head of a message has a line for each header, with a colon after its name. A line ends with a
line feed, which a carriage return may precede. The head ends with an empty line.

## Main definitions

* `Head.write`: the lines of some headers.
* `Head.read?`: the headers of some lines, if all are sound.
-/
namespace ClusterAccess.Http.Head

/-- Characters of the names of headers. -/
def isNameChar (c : Char) : Bool :=
  Text.Percent.isAsciiAlphanumeric c || "!#$%&'*+-.^_\x60|~".toList.contains c

/-- Header values have no control characters but tabs. -/
def isValueChar (c : Char) : Bool := c == '\t' || (0x20 ≤ c.toNat && c.toNat ≠ 0x7F)

def isSpace (c : Char) : Bool := c == ' ' || c == '\t'

/-- A text without blanks at its end. -/
def withoutEnd (s : List Char) : List Char := (s.reverse.dropWhile isSpace).reverse

/-- A line without the carriage return before its end. -/
def withoutReturn (s : List Char) : List Char :=
  if s.getLast? == some '\r' then s.dropLast else s

/-- The name and the value of a header, without the blanks around the value. -/
def readLine? (line : List Char) : Option (String × String) :=
  let name := line.takeWhile isNameChar
  match line.drop name.length with
  | ':' :: rest =>
    let value := withoutEnd (rest.dropWhile isSpace)
    if !name.isEmpty && value.all isValueChar then some (String.ofList name, String.ofList value)
    else none
  | _ => none

/-- The headers up to the first empty line. -/
def readLines? : List (List Char) → Option (List (String × String))
  | [] => some []
  | line :: rest =>
    if line.isEmpty then some []
    else match readLine? line, readLines? rest with
      | some header, some headers => some (header :: headers)
      | _, _ => none

/-- How many headers a head may have. -/
def mostHeaders : Nat := 100

def read? (head : List Char) : Option (List (String × String)) :=
  (readLines? ((head.splitOn '\n').map withoutReturn)).filter (·.length ≤ mostHeaders)

def write (headers : List (String × String)) : List Char :=
  headers.flatMap fun h => h.1.toList ++ ": ".toList ++ h.2.toList ++ "\r\n".toList

example : read? (write [("A", " b\t"), ("C", "")]) = some [("A", "b"), ("C", "")] := by
  decide +kernel

example : read? (write [("A", "b\x01")]) = none := by decide +kernel

end ClusterAccess.Http.Head
