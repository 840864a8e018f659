/-!
# UTF-8

Texts as bytes and back. Reading is either strict, or it puts U+FFFD for each
longest piece that could have begun a character.

## Main definitions

* `utf8`: the bytes of a text.
* `scan`: the characters of a byte list, with `none` for each piece that is none.
* `decode?`, `decodeLossy`: the two ways of reading.
-/
namespace ClusterAccess.Text

/-- The bytes of a text. -/
def utf8 (s : List Char) : List UInt8 := s.flatMap String.utf8EncodeChar

def utf8Bytes (s : String) : List UInt8 := utf8 s.toList

/-- How many bytes a text takes. -/
def utf8Length (s : String) : Nat := (utf8Bytes s).length

@[simp] theorem utf8_nil : utf8 [] = [] := rfl

theorem utf8_cons (c : Char) (s : List Char) :
    utf8 (c :: s) = String.utf8EncodeChar c ++ utf8 s := rfl

theorem utf8_append (s t : List Char) : utf8 (s ++ t) = utf8 s ++ utf8 t := by
  simp [utf8]

/-- Bytes `0x80` to `0xBF`, which only continue a character. -/
def isContinuation (b : UInt8) : Bool := 0x80 ≤ b && b ≤ 0xBF

/-- The second bytes that may follow the lead byte of a three-byte character. -/
def follows3 (a b : UInt8) : Bool :=
  if a == 0xE0 then 0xA0 ≤ b && b ≤ 0xBF
  else if a == 0xED then 0x80 ≤ b && b ≤ 0x9F
  else isContinuation b

/-- The second bytes that may follow the lead byte of a four-byte character. -/
def follows4 (a b : UInt8) : Bool :=
  if a == 0xF0 then 0x90 ≤ b && b ≤ 0xBF
  else if a == 0xF4 then 0x80 ≤ b && b ≤ 0x8F
  else isContinuation b

/-- The six low bits of a continuation byte. -/
def low6 (b : UInt8) : Nat := b.toNat % 64

def scan : List UInt8 → List (Option Char)
  | [] => []
  | a :: s =>
    if a < 0x80 then some (Char.ofNat a.toNat) :: scan s
    else if 0xC2 ≤ a && a ≤ 0xDF then
      match s with
      | [] => [none]
      | b :: t =>
        if isContinuation b then some (Char.ofNat ((a.toNat % 32) * 64 + low6 b)) :: scan t
        else none :: scan (b :: t)
    else if 0xE0 ≤ a && a ≤ 0xEF then
      match s with
      | [] => [none]
      | [b] => if follows3 a b then [none] else none :: scan [b]
      | b :: c :: t =>
        if follows3 a b then
          if isContinuation c then
            some (Char.ofNat ((a.toNat % 16) * 4096 + low6 b * 64 + low6 c)) :: scan t
          else none :: scan (c :: t)
        else none :: scan (b :: c :: t)
    else if 0xF0 ≤ a && a ≤ 0xF4 then
      match s with
      | [] => [none]
      | [b] => if follows4 a b then [none] else none :: scan [b]
      | [b, c] =>
        if follows4 a b then
          if isContinuation c then [none] else none :: scan [c]
        else none :: scan [b, c]
      | b :: c :: d :: t =>
        if follows4 a b then
          if isContinuation c then
            if isContinuation d then
              some (Char.ofNat
                ((a.toNat % 8) * 262144 + low6 b * 4096 + low6 c * 64 + low6 d)) :: scan t
            else none :: scan (d :: t)
          else none :: scan (c :: d :: t)
        else none :: scan (b :: c :: d :: t)
    else none :: scan s
termination_by s => s.length

/-- The text of the bytes, if they are the bytes of one. -/
def decode? (bytes : List UInt8) : Option (List Char) :=
  (scan bytes).foldr (fun c rest => match c, rest with
    | some c, some rest => some (c :: rest)
    | _, _ => none) (some [])

/-- The text of the bytes with U+FFFD for every piece that is no character. -/
def decodeLossy (bytes : List UInt8) : List Char :=
  (scan bytes).map (·.getD '\uFFFD')

end ClusterAccess.Text
