import ClusterAccess.Text.Hex
import ClusterAccess.Text.Utf8

/-!
# Percent-encoding

Bytes written as `%XX` where a text may not hold them plainly.

## Main definitions

* `isUnreserved`: the ASCII letters and digits and `- . _ ~`.
* `encodeWith`: the text with every byte escaped that is not to be kept.
* `encode`: keeps the unreserved characters only.
* `decodeBytes`: the bytes meant by a text with escapes.
-/
namespace ClusterAccess.Text.Percent

def isAsciiAlphanumeric (c : Char) : Bool :=
  ('0' ≤ c && c ≤ '9') || ('A' ≤ c && c ≤ 'Z') || ('a' ≤ c && c ≤ 'z')

/-- The characters that never need an escape. -/
def isUnreserved (c : Char) : Bool :=
  isAsciiAlphanumeric c || c == '-' || c == '_' || c == '.' || c == '~'

def escapeByte (b : UInt8) : List Char :=
  ['%', Hex.upperDigit (b.toNat / 16), Hex.upperDigit (b.toNat % 16)]

/-- A character as it is if `keep` holds of it, else with all its bytes escaped. -/
def encodeChar (keep : Char → Bool) (c : Char) : List Char :=
  if keep c then [c] else (String.utf8EncodeChar c).flatMap escapeByte

def encodeWith (keep : Char → Bool) (s : List Char) : List Char := s.flatMap (encodeChar keep)

def encode (s : String) : String := String.ofList (encodeWith isUnreserved s.toList)

/-- The bytes meant by a text: an escape stands for its byte, all else for its own bytes. -/
def decodeBytes : List Char → List UInt8
  | [] => []
  | '%' :: a :: b :: rest =>
    match Hex.digitValue? a, Hex.digitValue? b with
    | some x, some y => UInt8.ofNat (16 * x + y) :: decodeBytes rest
    | _, _ => String.utf8EncodeChar '%' ++ decodeBytes (a :: b :: rest)
  | c :: rest => String.utf8EncodeChar c ++ decodeBytes rest

/-- The text meant by a text with escapes, if its bytes are one. -/
def decode? (s : String) : Option String :=
  (Text.decode? (decodeBytes s.toList)).map String.ofList

def decodeLossy (s : String) : String :=
  String.ofList (Text.decodeLossy (decodeBytes s.toList))

end ClusterAccess.Text.Percent
