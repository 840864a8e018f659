import ClusterAccess.Text.Hex
import ClusterAccess.Text.Hidden

/-!
# Quoted text

How a text is shown inside a description of a value: between double quotes, with
escapes for the quote, the backslash and every character that could not be seen.

## Main definitions

* `escape`: the shown form of one character.
* `quoted`: the shown form of a text.
* `record`: the shown form of a named record.
-/
namespace ClusterAccess.Text

/-- Newline, return, tab and NUL have escapes of their own; other hidden characters are written by
number. -/
def escape (c : Char) : List Char :=
  if c = '\x00' then ['\\', '0']
  else if c = '\t' then ['\\', 't']
  else if c = '\r' then ['\\', 'r']
  else if c = '\n' then ['\\', 'n']
  else if c = '"' then ['\\', '"']
  else if c = '\\' then ['\\', '\\']
  else if isHidden c then ['\\', 'u', '{'] ++ Hex.natural c.toNat ++ ['}']
  else [c]

def quoted (s : String) : String :=
  String.ofList ('"' :: s.toList.flatMap escape ++ ['"'])

/-- The shown form of an optional text. -/
def quotedOption : Option String → String
  | none => "None"
  | some s => "Some(" ++ quoted s ++ ")"

/-- `Name \x7b first: …, second: … \x7d`, from the shown forms of the fields. -/
def record (name : String) (fields : List (String × String)) : String :=
  name ++ " \x7b " ++ ", ".intercalate (fields.map fun f => f.1 ++ ": " ++ f.2) ++ " \x7d"

/-- The shown form of a list of texts. -/
def quotedList (items : List String) : String :=
  "[" ++ ", ".intercalate (items.map quoted) ++ "]"

end ClusterAccess.Text
