import ClusterAccess.Outcome
import ClusterAccess.Secret

/-!
# Random identifiers and passwords

Characters are drawn evenly from an alphabet of bytes: a random byte beyond the largest multiple of
the alphabet's size is thrown away. Random bytes come in blocks, and what is left of a block is not
used for the next draw.

How long a text is to be is counted in bytes. A byte of an alphabet from 128 on stands for a
character of two bytes, which can take a text past the length that it should have; nothing but the
end of the block stops it then.

## Main definitions

* `draw`: characters drawn from an alphabet.
* `text`: a random text of a given length.
* `identifier`: a random identifier.
* `PasswordPolicy`: length and kinds of characters of a password.
* `PasswordPolicy.generate`: a password that has every kind of character.
-/
namespace ClusterAccess

/-- A source of random blocks: the blocks that are still to come. -/
abbrev Entropy := List (List UInt8)

namespace Password

def upper : List Char := "ABCDEFGHIJKLMNOPQRSTUVWXYZ".toList

def lower : List Char := "abcdefghijklmnopqrstuvwxyz".toList

def digits : List Char := "0123456789".toList

def symbols : List Char := "!@#$%^&*()-_=+[]\x7b\x7d:;,.?/~".toList

def identifierAlphabet : List Char := "ABCDEFGHIJKLMNOPQRSTUVWXYZ1234567890".toList

/-- The bytes of ASCII characters. -/
def ascii (kind : List Char) : List UInt8 := kind.map Char.toUInt8

/-- The character that a random byte stands for, unless it would favour some characters. -/
def pick? (alphabet : List UInt8) (b : UInt8) : Option Char :=
  if b.toNat < 256 - 256 % alphabet.length then
    alphabet[b.toNat % alphabet.length]?.map Char.ofUInt8
  else none

/-- How many bytes characters take. -/
def byteSize : List Char → Nat
  | [] => 0
  | c :: s => c.utf8Size + byteSize s

/-- Characters up to where they take exactly `wanted` bytes, and all of them if they nowhere do. -/
def fill : (wanted : Nat) → List Char → List Char
  | _, [] => []
  | wanted, c :: more =>
    if c.utf8Size = wanted then [c]
    else if c.utf8Size < wanted then c :: fill (wanted - c.utf8Size) more
    else c :: more

/-- Characters for `wanted` bytes drawn from blocks of random bytes, and the blocks left over;
nothing if the blocks run out. -/
def draw (alphabet : List UInt8) (wanted : Nat) : Entropy → Option (List Char × Entropy)
  | [] => if wanted = 0 then some ([], []) else none
  | block :: rest =>
    if wanted = 0 then some ([], block :: rest)
    else
      let found := fill wanted (block.filterMap (pick? alphabet))
      (draw alphabet (wanted - byteSize found) rest).map fun (more, rest) => (found ++ more, rest)

/-- The longest text that there can be, in bytes. -/
def longestText : Nat := UInt64.size / 2 - 1

/-- A random text. Room is made for all of it before the first draw, and a length that no text can
have breaks the task off. -/
def text (alphabet : List UInt8) (length : Nat) (e : Entropy) : Outcome (List Char) × Entropy :=
  if longestText < length then (.aborted, e)
  else match draw alphabet length e with
    | some (s, rest) => (.ok s, rest)
    | none => (.failed (.random "no more random bytes"), [])

/-- A random identifier in upper-case letters and digits. -/
def identifier (length : Nat) (e : Entropy) : Outcome String × Entropy :=
  let (found, rest) := text (ascii identifierAlphabet) length e
  (found.map String.ofList, rest)

end Password

structure PasswordPolicy where
  length : Nat := 30
  symbols : Bool := true
  deriving DecidableEq, Repr

namespace PasswordPolicy

open Password

/-- The kinds of characters, of each of which a password has at least one. -/
def classes (p : PasswordPolicy) : List (List Char) :=
  [upper, lower, digits] ++ if p.symbols then [Password.symbols] else []

def alphabet (p : PasswordPolicy) : List UInt8 := ascii p.classes.flatten

def isSatisfiedBy (p : PasswordPolicy) (s : List Char) : Bool :=
  p.classes.all fun kind => s.any kind.contains

/-- How many draws are made before giving up. -/
def maxRounds : Nat := 64

/-- The first of up to `rounds` texts that has every kind of character. -/
def attempt (p : PasswordPolicy) : (rounds : Nat) → Entropy → Outcome Secret × Entropy
  | 0, e => (.failed (.random "could not draw a password covering every character class"), e)
  | rounds + 1, e =>
    match text p.alphabet p.length e with
    | (.ok s, rest) =>
      if p.isSatisfiedBy s then (.ok (.ofString (String.ofList s)), rest) else p.attempt rounds rest
    | (.failed fault, rest) => (.failed fault, rest)
    | (.aborted, rest) => (.aborted, rest)
    | (.stuck, rest) => (.stuck, rest)

/-- A password of the policy's length in which every kind of character occurs. -/
def generate (p : PasswordPolicy) (e : Entropy) : Outcome Secret × Entropy :=
  if p.length < p.classes.length then
    (.failed (.invalidSettings
      s!"password length {p.length} cannot cover {p.classes.length} character classes"), e)
  else p.attempt maxRounds e

end PasswordPolicy
end ClusterAccess
