import TlsClient.Hash.Md5
import TlsClient.Hash.Sha1

/-!
# Keyed hashes

HMAC over a hash function with blocks of 64 bytes: the message is hashed behind one mask of the key,
and the result behind another.  A key that is longer than a block is hashed first.
-/

namespace TlsClient.Hash

/-- A key as one block. -/
def keyBlock (hash : Bytes → Bytes) (key : Bytes) : Bytes :=
  let key := if blockLength < key.length then hash key else key
  key ++ List.replicate (blockLength - key.length) 0

/-- The keyed hash of a message. -/
def hmac (hash : Bytes → Bytes) (key message : Bytes) : Bytes :=
  let block := keyBlock hash key
  hash (block.map (· ^^^ 0x5c) ++ hash (block.map (· ^^^ 0x36) ++ message))

def hmacMd5 : Bytes → Bytes → Bytes := hmac Md5.hash

def hmacSha1 : Bytes → Bytes → Bytes := hmac Sha1.hash

@[simp] theorem length_hmacMd5 (key message : Bytes) : (hmacMd5 key message).length = 16 :=
  Md5.length_hash _

@[simp] theorem length_hmacSha1 (key message : Bytes) : (hmacSha1 key message).length = 20 :=
  Sha1.length_hash _

end TlsClient.Hash
