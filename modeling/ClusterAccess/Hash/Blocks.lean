/-!
# Blocks and words of bytes

What the hash functions have in common: messages are filled up to whole blocks, and blocks are cut
into words.

## Main definitions

* `padded`: a message filled up with a bit, zeros and its length.
* `cut`: a byte list in pieces of one length.
* `bigEndian`, `littleEndian`: a number as bytes.
-/
namespace ClusterAccess.Hash

/-- The lowest bytes of a number, least significant first. -/
def littleEndian (count n : Nat) : List UInt8 :=
  (List.range count).map fun i => UInt8.ofNat (n >>> (8 * i))

/-- The lowest bytes of a number, most significant first. -/
def bigEndian (count n : Nat) : List UInt8 := (littleEndian count n).reverse

/-- The number that bytes make up, most significant first. -/
def ofBigEndian (bytes : List UInt8) : Nat := bytes.foldl (fun n b => 256 * n + b.toNat) 0

def ofLittleEndian (bytes : List UInt8) : Nat := ofBigEndian bytes.reverse

/-- A one bit and zeros behind the message, and then its length in bits, up to whole blocks. -/
def padded (block : Nat) (length : Nat → List UInt8) (message : List UInt8) : List UInt8 :=
  let tail := length (8 * message.length)
  let used := message.length + 1 + tail.length
  message ++ 0x80 :: List.replicate ((block - used % block) % block) 0 ++ tail

/-- The whole pieces of `size` bytes. -/
def cut (size : Nat) (bytes : List UInt8) : List (List UInt8) :=
  (List.range (bytes.length / size)).map fun i => (bytes.drop (i * size)).take size

end ClusterAccess.Hash
