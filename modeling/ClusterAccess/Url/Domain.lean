import ClusterAccess.Text.Punycode
import ClusterAccess.Url.Domain.Direction
import ClusterAccess.Url.Domain.Joiner
import ClusterAccess.Url.Domain.Meaning

/-!
# Domain names in ASCII

A domain name may be written with any letters. Each character is replaced by the ones it stands for,
letters are composed, and each label that is then not ASCII is put into Punycode after `xn--`. A
label that is written so already has to be one that this would give.

## Main definitions

* `Domain.label?`: a label as it is meant.
* `Domain.isProper`: the rules for labels that are not ASCII.
* `asciiDomain?`: a name in ASCII.
-/
namespace ClusterAccess.Url

namespace Domain

/-- ASCII characters that no name has: controls, blanks, and those with a meaning in URLs. -/
def isForbidden (c : Char) : Bool :=
  c.toNat ≤ 0x20 || c.toNat == 0x7F || "#%/:<>?@[\\]^|".toList.contains c

def isAscii (s : List Char) : Bool := s.all Text.Punycode.isAscii

/-- What follows the mark of a label in Punycode. -/
def foreignForm? : List Char → Option (List Char)
  | 'x' :: 'n' :: '-' :: '-' :: form => some form
  | _ => none

/-- The characters that a text stands for. -/
def meant? (s : List Char) : Option (List Char) :=
  (s.mapM meaning?).map List.flatten

/-- Whether a text is what it stands for. -/
def isPlain (s : List Char) : Bool :=
  s.all (fun c => meaning? c == some [c]) && composed s == s

/-- A label begins with no mark, and has joiners only where they matter. -/
def isProper (label : List Char) : Bool :=
  !label.head?.any isMark && joinersFit label && label.length ≤ 1000

/-- The label that a form in Punycode stands for, which needs that form. -/
def foreignLabel? (form : List Char) : Option (List Char) :=
  if 2000 < form.length || form.getLast? == some '-' then none
  else match Text.Punycode.decode? form with
    | some label => if !isAscii label && isPlain label && isProper label then some label else none
    | none => none

/-- A label as it is meant, from one whose characters stand for themselves. -/
def label? (s : List Char) : Option (List Char) :=
  if s.any isForbidden then none
  else match foreignForm? s with
    | some form => foreignLabel? form
    | none => if isAscii s || isProper s then some s else none

def asciiLabel (label : List Char) : List Char :=
  if isAscii label then label else 'x' :: 'n' :: '-' :: '-' :: Text.Punycode.encode label

/-- If a character of a name is written from right to left, all labels have to keep a direction. -/
def haveDirections (labels : List (List Char)) : Bool :=
  !labels.any (·.any fun c => (direction c).isFromRight) || labels.all keepsDirection

end Domain

open Domain

def asciiDomain? (name : List Char) : Option (List Char) := do
  let meant ← meant? name
  let labels ← ((meant.splitOn '.').map composed).mapM label?
  if haveDirections labels then some ((labels.map asciiLabel).intersperse ['.']).flatten else none

end ClusterAccess.Url
