import TlsClient.Bytes

/-!
# Messages in blocks

MD5 and SHA-1 work on blocks of 64 bytes.  A message is completed to whole blocks by a byte 0x80,
zeros, and its length in bits in the last eight bytes.
-/

namespace TlsClient.Hash

/-- The bytes of a block. -/
def blockLength : Nat := 64

/-- A message of `n` bytes completed to whole blocks; `lengthBytes` writes the length in bits. -/
def pad (lengthBytes : Nat → Bytes) (message : Bytes) : Bytes :=
  let n := message.length
  message ++ 0x80 :: (List.replicate ((119 - n % 64) % 64) 0 ++ lengthBytes (8 * n))

/-- The words of a block, four bytes each. -/
def words (ofBytes : Bytes → Nat) (block : Bytes) : Array UInt32 :=
  ((Bytes.chunks 4 block).map fun w => UInt32.ofNat (ofBytes w)).toArray

/-- Rotates a word to the left. -/
def rotate (x : UInt32) (n : Nat) : UInt32 :=
  (x <<< UInt32.ofNat n) ||| (x >>> UInt32.ofNat (32 - n))

end TlsClient.Hash
