import TlsClient.Hash.Hmac

/-!
# The pseudorandom function

TLS 1.0 stretches a secret with both of its hash functions, so that it takes a break of both to
predict the output.  The secret is cut into two halves, which share the middle byte if its length is
odd; each half keys the expansion of the same seed, and the two expansions are combined by exclusive
or.
-/

namespace TlsClient.Prf

/-- The first `count` blocks of an expansion, from the chaining value `a`. -/
def blocks (mac : Bytes → Bytes) (seed : Bytes) : (count : Nat) → (a : Bytes) → Bytes
  | 0, _ => []
  | count + 1, a => mac (a ++ seed) ++ blocks mac seed count (mac a)

/-- The first `n` bytes of the expansion of a seed by a keyed hash with results of `size` bytes. -/
def expand (mac : Bytes → Bytes) (size : Nat) (seed : Bytes) (n : Nat) : Bytes :=
  (blocks mac seed ((n + size - 1) / size) (mac seed)).take n

/-- The length of each half of a secret. -/
def half (secret : Bytes) : Nat := (secret.length + 1) / 2

def firstHalf (secret : Bytes) : Bytes := secret.take (half secret)

def lastHalf (secret : Bytes) : Bytes := secret.drop (secret.length - half secret)

end TlsClient.Prf

namespace TlsClient

/-- The first `n` bytes that a secret yields for a label and a seed. -/
def prf (secret label seed : Bytes) (n : Nat) : Bytes :=
  Bytes.xor (Prf.expand (Hash.hmacMd5 (Prf.firstHalf secret)) 16 (label ++ seed) n)
    (Prf.expand (Hash.hmacSha1 (Prf.lastHalf secret)) 20 (label ++ seed) n)

end TlsClient
