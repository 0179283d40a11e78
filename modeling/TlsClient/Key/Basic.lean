import TlsClient.Key.Dsa
import TlsClient.Key.Rsa
import TlsClient.Suite
import TlsClient.Transcript

/-!
# Keys

The keys that servers are known by and clients prove themselves with.  An RSA key signs both hashes
of a message, a DSA key its SHA-1 hash alone.
-/

namespace TlsClient

/-- A key that checks signatures. -/
inductive PublicKey where
  | rsa (key : RsaPublicKey)
  | dsa (key : DsaPublicKey)
  deriving DecidableEq, Repr

namespace PublicKey

def algorithm : PublicKey → KeyAlgorithm
  | rsa _ => .rsa
  | dsa _ => .dsa

/-- Whether the bytes are the key's signature of a message. -/
def verifies (k : PublicKey) (message signature : Bytes) : Bool :=
  match k with
  | rsa key => key.verifies (Transcript.digest message) signature
  | dsa key => key.verifies (Hash.Sha1.hash message) signature

/-- The base-2⁶⁴ digits of a number, lowest first; zero has none. -/
def limbs (n : Nat) : List Nat :=
  if n = 0 then [] else n % UInt64.size :: limbs (n / UInt64.size)
termination_by n
decreasing_by exact Nat.div_lt_self (by omega) (by decide)

/-- A number by its digits. -/
def describeNumber (n : Nat) : String := Text.record "BigUint" [("data", describe (limbs n))]

instance : Describe PublicKey where
  describe
    | rsa key =>
      Text.applied "Rsa"
        [Text.record "RsaPublicKey" [("n", describeNumber key.n), ("e", describeNumber key.e)]]
    | dsa key =>
      Text.applied "Dsa"
        [Text.record "DsaPublicKey"
          [("p", describeNumber key.p), ("q", describeNumber key.q), ("g", describeNumber key.g),
            ("y", describeNumber key.y)]]

end PublicKey

/-- A key that signs. -/
inductive SigningKey where
  | rsa (key : RsaPrivateKey)
  | dsa (key : DsaPrivateKey)
  deriving DecidableEq, Repr

namespace SigningKey

def algorithm : SigningKey → KeyAlgorithm
  | rsa _ => .rsa
  | dsa _ => .dsa

/-- The signature of a message. -/
def sign (k : SigningKey) (message : Bytes) : Except TlsError Bytes :=
  match k with
  | rsa key =>
    match key.sign? (Transcript.digest message) with
    | some signature => .ok signature
    | none => .error (.general "RSA signing failed")
  | dsa key =>
    match key.sign? (Hash.Sha1.hash message) with
    | some signature => .ok signature
    | none => .error (.general "DSA signing failed")

instance : Describe SigningKey :=
  ⟨fun k => Text.openRecord "SigningKey" [("algorithm", describe k.algorithm)]⟩

end SigningKey

end TlsClient
