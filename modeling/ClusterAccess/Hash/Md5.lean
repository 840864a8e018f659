import ClusterAccess.Hash.Blocks

/-!
# The hash function MD5

## Main definitions

* `md5`: the sixteen bytes of a message.
-/
namespace ClusterAccess.Hash

namespace Md5

structure State where
  a : UInt32
  b : UInt32
  c : UInt32
  d : UInt32
  deriving DecidableEq, Repr

def initial : State := ⟨0x67452301, 0xefcdab89, 0x98badcfe, 0x10325476⟩

/-- The absolute values of the sines of 1, 2, …, 64, times 2 to the 32nd, rounded down. -/
def sines : List UInt32 := [
  0xd76aa478, 0xe8c7b756, 0x242070db, 0xc1bdceee, 0xf57c0faf, 0x4787c62a, 0xa8304613, 0xfd469501,
  0x698098d8, 0x8b44f7af, 0xffff5bb1, 0x895cd7be, 0x6b901122, 0xfd987193, 0xa679438e, 0x49b40821,
  0xf61e2562, 0xc040b340, 0x265e5a51, 0xe9b6c7aa, 0xd62f105d, 0x02441453, 0xd8a1e681, 0xe7d3fbc8,
  0x21e1cde6, 0xc33707d6, 0xf4d50d87, 0x455a14ed, 0xa9e3e905, 0xfcefa3f8, 0x676f02d9, 0x8d2a4c8a,
  0xfffa3942, 0x8771f681, 0x6d9d6122, 0xfde5380c, 0xa4beea44, 0x4bdecfa9, 0xf6bb4b60, 0xbebfbc70,
  0x289b7ec6, 0xeaa127fa, 0xd4ef3085, 0x04881d05, 0xd9d4d039, 0xe6db99e5, 0x1fa27cf8, 0xc4ac5665,
  0xf4292244, 0x432aff97, 0xab9423a7, 0xfc93a039, 0x655b59c3, 0x8f0ccc92, 0xffeff47d, 0x85845dd1,
  0x6fa87e4f, 0xfe2ce6e0, 0xa3014314, 0x4e0811a1, 0xf7537e82, 0xbd3af235, 0x2ad7d2bb, 0xeb86d391]

def rotations : List UInt32 :=
  let fourTimes (r : List UInt32) : List UInt32 := r ++ r ++ r ++ r
  fourTimes [7, 12, 17, 22] ++ fourTimes [5, 9, 14, 20] ++ fourTimes [4, 11, 16, 23] ++
    fourTimes [6, 10, 15, 21]

def rotateLeft (x n : UInt32) : UInt32 := (x <<< n) ||| (x >>> (32 - n))

/-- How a round mixes three words, and which word of the block it takes. -/
def mix (round : Nat) (b c d : UInt32) : UInt32 × Nat :=
  if round < 16 then ((b &&& c) ||| (~~~b &&& d), round)
  else if round < 32 then ((d &&& b) ||| (~~~d &&& c), (5 * round + 1) % 16)
  else if round < 48 then (b ^^^ c ^^^ d, (3 * round + 5) % 16)
  else (c ^^^ (b ||| ~~~d), 7 * round % 16)

def step (words : List UInt32) (s : State) (item : Nat × UInt32 × UInt32) : State :=
  let (round, sine, rotation) := item
  let (f, place) := mix round s.b s.c s.d
  let sum := s.a + f + sine + words.getD place 0
  ⟨s.d, s.b + rotateLeft sum rotation, s.b, s.c⟩

/-- The rounds, each with its number and constants. -/
def rounds : List (Nat × UInt32 × UInt32) := (List.range 64).zip (sines.zip rotations)

def compress (s : State) (block : List UInt8) : State :=
  let words := (cut 4 block).map fun w => UInt32.ofNat (ofLittleEndian w)
  let t := rounds.foldl (step words) s
  ⟨s.a + t.a, s.b + t.b, s.c + t.c, s.d + t.d⟩

def State.bytes (s : State) : List UInt8 :=
  [s.a, s.b, s.c, s.d].flatMap fun w => littleEndian 4 w.toNat

end Md5

/-- Sixteen bytes. -/
def md5 (message : List UInt8) : List UInt8 :=
  let blocks := cut 64 (padded 64 (littleEndian 8) message)
  (blocks.foldl Md5.compress Md5.initial).bytes

end ClusterAccess.Hash
