import TlsClient.Cipher.BlockKey
import TlsClient.Error.Basic
import TlsClient.Hash.Hmac
import TlsClient.Record.Basic

/-!
# Protection of records

A protected record carries its data, the authentication code of the data, and padding, all encrypted
in cipher block chaining.  The padding is one to 256 bytes, each of them the number of padding bytes
less one.  The code covers the sequence number, the header and the data.
-/

namespace TlsClient

/-- One direction of a protected connection: a key for authentication, a key for encryption, and the
initialisation vector of the next record. -/
structure Protection where
  macKey : Bytes
  key : BlockKey
  iv : Bytes
  deriving DecidableEq, Repr

namespace Protection

/-- Puts keys in place.  Only the encryption key can have a wrong length. -/
def ofKeys (bulk : BulkCipher) (macKey key iv : Bytes) : Except TlsError Protection :=
  match BlockKey.ofBytes? bulk key with
  | some key => .ok { macKey, key, iv }
  | none => .error (.general ("wrong key length for " ++ describe bulk))

/-- The authentication code of a record's data. -/
def mac (p : Protection) (seq : UInt64) (typ : ContentType) (version : ProtocolVersion)
    (data : Bytes) : Bytes :=
  Hash.hmacSha1 p.macKey
    (Bytes.ofNat 8 seq.toNat ++ Wire.encode typ ++ Wire.encode version
      ++ Encoder.vector 2 data)

/-- The shortest padding that completes `n` bytes to whole blocks. -/
def padding (blockLength n : Nat) : Bytes :=
  let count := blockLength - n % blockLength
  List.replicate count (UInt8.ofNat (count - 1))

/-- Protects a record.  More data than a record may carry is refused, and leaves no trace. -/
def protect (p : Protection) (seq : UInt64) (r : Record) : Except TlsError Record × Protection :=
  if Record.maxFragment < r.payload.length then (.error .cannotEncrypt, p)
  else
    let plain := r.payload ++ p.mac seq r.typ r.version r.payload
    let (payload, iv) := Cbc.encrypt p.key p.iv (plain ++ padding p.key.blockLength plain.length)
    (.ok { r with payload }, { p with iv })

/-- Splits decrypted bytes into data, code and padding, and says whether the padding is right.  If it
is not, it counts as none, so that the work that follows is the same. -/
def split (plain : Bytes) : Bytes × Bytes × Bool :=
  let last := plain.getLastD 0
  let count := last.toNat + 1
  let good := count + macLength ≤ plain.length
    && (plain.drop (plain.length - count)).all (· == last)
  let length := plain.length - (if good then count else 0) - macLength
  (plain.take length, (plain.drop length).take macLength, good)

/-- Opens a protected record.  Whatever is wrong with it, the answer is the same; only a record that is
authentic can be too long. -/
def unprotect (p : Protection) (seq : UInt64) (r : Record) : Except TlsError Record × Protection :=
  let n := r.payload.length
  if n = 0 ∨ n % p.key.blockLength ≠ 0 ∨ n < macLength + 1 then (.error .cannotDecrypt, p)
  else
    let (plain, iv) := Cbc.decrypt p.key p.iv r.payload
    let (data, code, good) := split plain
    let result :=
      if ¬ (good ∧ p.mac seq r.typ r.version data = code) then .error .cannotDecrypt
      else if Record.maxFragment < data.length then .error .oversizedRecord
      else .ok { r with payload := data }
    (result, { p with iv })

/-- Protects a record if there are keys to do it with. -/
def protect? (p : Option Protection) (seq : UInt64) (r : Record) :
    Except TlsError Record × Option Protection :=
  match p with
  | none => (.error .cannotEncrypt, none)
  | some p => (p.protect seq r).map id some

/-- Opens a record if there are keys to do it with. -/
def unprotect? (p : Option Protection) (seq : UInt64) (r : Record) :
    Except TlsError Record × Option Protection :=
  match p with
  | none => (.error .cannotDecrypt, none)
  | some p => (p.unprotect seq r).map id some

end Protection

end TlsClient
