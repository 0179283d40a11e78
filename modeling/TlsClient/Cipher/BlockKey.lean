import TlsClient.Cipher.Aes
import TlsClient.Cipher.Des
import TlsClient.Suite

/-!
# Block ciphers and their chaining

A block cipher with its key in place turns blocks into blocks and back.  In cipher block chaining
each block is combined with the ciphertext of the block before it; the last block of one text is the
start for the next.
-/

namespace TlsClient

/-- A block cipher with its key in place. -/
inductive BlockKey where
  | aes (schedule : Aes.Schedule)
  /-- Three DES keys: encryption with the first, decryption with the second, encryption with the
  third. -/
  | tripleDes (first second third : List Des.Bits)
  deriving DecidableEq, Repr

namespace BlockKey

/-- Puts a key in place, if it has the length that the cipher takes. -/
def ofBytes? (bulk : BulkCipher) (key : Bytes) : Option BlockKey :=
  if key.length ≠ bulk.keyLength then none
  else
    match bulk with
    | .aes128 | .aes256 => some (aes (.ofKey key))
    | .tripleDes =>
      some (tripleDes (Des.schedule (key.take 8)) (Des.schedule ((key.drop 8).take 8))
        (Des.schedule (key.drop 16)))

/-- The bytes of a block. -/
def blockLength : BlockKey → Nat
  | aes _ => 16
  | tripleDes .. => 8

def encrypt : BlockKey → Bytes → Bytes
  | aes k, block => (Aes.encrypt k (.ofBytes block)).toBytes
  | tripleDes k l m, block => Des.encrypt m (Des.decrypt l (Des.encrypt k block))

def decrypt : BlockKey → Bytes → Bytes
  | aes k, block => (Aes.decrypt k (.ofBytes block)).toBytes
  | tripleDes k l m, block => Des.decrypt k (Des.encrypt l (Des.decrypt m block))

end BlockKey

namespace Cbc

/-- Encrypts blocks, each combined with the ciphertext before it. -/
def encryptBlocks (e : Bytes → Bytes) : (previous : Bytes) → List Bytes → List Bytes
  | _, [] => []
  | previous, block :: blocks =>
    let c := e (Bytes.xor block previous)
    c :: encryptBlocks e c blocks

/-- Undoes `encryptBlocks`. -/
def decryptBlocks (d : Bytes → Bytes) : (previous : Bytes) → List Bytes → List Bytes
  | _, [] => []
  | previous, c :: cs => Bytes.xor (d c) previous :: decryptBlocks d c cs

/-- Encrypts whole blocks from an initialisation vector, and gives the next one. -/
def encrypt (key : BlockKey) (iv text : Bytes) : Bytes × Bytes :=
  let cs := encryptBlocks key.encrypt iv (Bytes.chunks key.blockLength text)
  (cs.flatten, cs.getLastD iv)

/-- Decrypts whole blocks from an initialisation vector, and gives the next one. -/
def decrypt (key : BlockKey) (iv text : Bytes) : Bytes × Bytes :=
  let cs := Bytes.chunks key.blockLength text
  ((decryptBlocks key.decrypt iv cs).flatten, cs.getLastD iv)

end Cbc

end TlsClient
