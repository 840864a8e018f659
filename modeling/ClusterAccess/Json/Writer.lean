import ClusterAccess.Text.Hex

/-!
# Writing JSON

## Main definitions

* `Value`: a JSON value; the members of an object are in the order in which they are written.
* `escape`: the written form of a character within a text.
* `compact`, `pretty`: the two layouts of a value.
-/
namespace ClusterAccess.Json

inductive Value where
  | null
  | boolean (b : Bool)
  | natural (n : Nat)
  | text (s : String)
  | array (items : List Value)
  | object (members : List (String × Value))
  deriving Repr

namespace Value

/-- The text or `null`. -/
def ofOption : Option String → Value
  | none => .null
  | some s => .text s

end Value

/-- Quote, backslash and control characters are escaped, all else is written as it is. -/
def escape (c : Char) : List Char :=
  if c = '"' then ['\\', '"']
  else if c = '\\' then ['\\', '\\']
  else if c = '\x08' then ['\\', 'b']
  else if c = '\x0c' then ['\\', 'f']
  else if c = '\n' then ['\\', 'n']
  else if c = '\r' then ['\\', 'r']
  else if c = '\t' then ['\\', 't']
  else if c.toNat < 0x20 then
    ['\\', 'u', '0', '0', Text.Hex.lowerDigit (c.toNat / 16), Text.Hex.lowerDigit (c.toNat % 16)]
  else [c]

def quote (s : String) : List Char := '"' :: s.toList.flatMap escape ++ ['"']

/-- Joins written pieces with a comma and `gap`. -/
def joined (gap : List Char) : List (List Char) → List Char
  | [] => []
  | [piece] => piece
  | piece :: rest => piece ++ ',' :: gap ++ joined gap rest

mutual

/-- The characters of a value without any blanks. -/
def Value.compactChars : Value → List Char
  | .null => ['n', 'u', 'l', 'l']
  | .boolean true => ['t', 'r', 'u', 'e']
  | .boolean false => ['f', 'a', 'l', 's', 'e']
  | .natural n => Nat.toDigits 10 n
  | .text s => quote s
  | .array items => '[' :: joined [] (compactItems items) ++ [']']
  | .object members => '{' :: joined [] (compactMembers members) ++ ['}']

def compactItems : List Value → List (List Char)
  | [] => []
  | v :: rest => v.compactChars :: compactItems rest

def compactMembers : List (String × Value) → List (List Char)
  | [] => []
  | (name, v) :: rest => (quote name ++ ':' :: v.compactChars) :: compactMembers rest

end

/-- A new line, indented by two blanks a level. -/
def newLine (level : Nat) : List Char := '\n' :: List.replicate (2 * level) ' '

mutual

/-- The characters of a value with a line for each item and member, the value standing at
`level`. -/
def Value.prettyChars (level : Nat) : Value → List Char
  | .null => ['n', 'u', 'l', 'l']
  | .boolean true => ['t', 'r', 'u', 'e']
  | .boolean false => ['f', 'a', 'l', 's', 'e']
  | .natural n => Nat.toDigits 10 n
  | .text s => quote s
  | .array [] => ['[', ']']
  | .array (v :: rest) =>
    '[' :: newLine (level + 1) ++
      joined (newLine (level + 1)) (prettyItems (level + 1) (v :: rest)) ++ newLine level ++ [']']
  | .object [] => ['{', '}']
  | .object (m :: rest) =>
    '{' :: newLine (level + 1) ++
      joined (newLine (level + 1)) (prettyMembers (level + 1) (m :: rest)) ++
        newLine level ++ ['}']

def prettyItems (level : Nat) : List Value → List (List Char)
  | [] => []
  | v :: rest => v.prettyChars level :: prettyItems level rest

def prettyMembers (level : Nat) : List (String × Value) → List (List Char)
  | [] => []
  | (name, v) :: rest =>
    (quote name ++ ':' :: ' ' :: v.prettyChars level) :: prettyMembers level rest

end

def Value.compact (v : Value) : String := String.ofList v.compactChars

def Value.pretty (v : Value) : String := String.ofList (v.prettyChars 0)

end ClusterAccess.Json
