import TlsClient.Hash.Hmac
import TlsClient.Key.Der
import TlsClient.Number.Modular

/-!
# DSA keys

A signature is a pair of numbers below the order of the subgroup.  Each takes a number of its own
that nobody may know; it is derived from the key and from what is signed, so that no randomness is
needed and the same content always gets the same signature.
-/

namespace TlsClient

/-- A key that checks signatures. -/
structure DsaPublicKey where
  p : Nat
  q : Nat
  g : Nat
  y : Nat
  deriving DecidableEq, Repr

/-- A key that signs. -/
structure DsaPrivateKey where
  p : Nat
  q : Nat
  g : Nat
  x : Nat
  deriving DecidableEq, Repr

namespace Dsa

/-- The whole bytes in the order of the subgroup. -/
def wholeBytes (q : Nat) : Nat := (q.log2 + 1) / 8

/-- The number that stands for a digest: as many of its bytes as the order has. -/
def digestNumber (q : Nat) (digest : Bytes) : Nat := Bytes.toNat (digest.take (wholeBytes q))

/-- A generator of bytes that look random, driven by a keyed hash. -/
structure Generator where
  key : Bytes
  value : Bytes
  deriving DecidableEq, Repr

namespace Generator

/-- Mixes bytes into the state. -/
def mix (g : Generator) (bs : Bytes) : Generator :=
  let key := Hash.hmacSha1 g.key (g.value ++ bs)
  { key, value := Hash.hmacSha1 key g.value }

/-- The generator that belongs to some secret bytes. -/
def ofSecret (secret : Bytes) : Generator :=
  let start : Generator := { key := List.replicate 20 0, value := List.replicate 20 1 }
  (start.mix (0 :: secret)).mix (1 :: secret)

/-- The next values, each the hash of the one before. -/
def values (key : Bytes) : (count : Nat) → (value : Bytes) → List Bytes
  | 0, _ => []
  | count + 1, value =>
    let next := Hash.hmacSha1 key value
    next :: values key count next

/-- Takes `n` bytes. -/
def draw (g : Generator) (n : Nat) : Bytes × Generator :=
  let vs := values g.key ((n + 19) / 20) g.value
  (vs.flatten.take n, { g with value := vs.getLastD g.value }.mix [0])

end Generator

/-- The first number from a generator, of at most `fuel`, that lies between zero and the order and
has an inverse: the number and its inverse. -/
def nonce? (q : Nat) : (fuel : Nat) → Generator → Option (Nat × Nat)
  | 0, _ => none
  | fuel + 1, g =>
    let (bs, g) := g.draw (wholeBytes q)
    let k := Bytes.toNat bs
    match if 0 < k ∧ k < q then Number.inverse? k q else none with
    | some inverse => some (k, inverse)
    | none => nonce? q fuel g

/-- How many numbers are tried for one signature. -/
def maxTries : Nat := 10000

end Dsa

namespace DsaPublicKey

/-- Whether the parameters lie where they should and the public value is in the subgroup. -/
def isUsable (k : DsaPublicKey) : Bool :=
  2 ≤ k.p && 2 ≤ k.q && 0 < k.g && k.g ≤ k.p && 2 ≤ k.y && Number.powMod k.y k.q k.p == 1

/-- Whether two numbers are the key's signature of a digest. -/
def verifiesPair (k : DsaPublicKey) (digest : Bytes) (r s : Nat) : Bool :=
  0 < r && r < k.q && 0 < s && s < k.q
    && match Number.inverse? s k.q with
      | none => false
      | some w =>
        let z := Dsa.digestNumber k.q digest
        let gz := Number.powMod k.g (z * w % k.q) k.p
        let yr := Number.powMod k.y (r * w % k.q) k.p
        gz * yr % k.p % k.q == r

/-- Whether the bytes are the key's signature of a digest. -/
def verifies (k : DsaPublicKey) (digest signature : Bytes) : Bool :=
  k.isUsable
    && match Der.decodePair? signature with
      | none => false
      | some (r, s) => k.verifiesPair digest r s

end DsaPublicKey

namespace DsaPrivateKey

/-- The signature of a digest as two numbers, if neither of them comes out as zero. -/
def signPair? (k : DsaPrivateKey) (digest : Bytes) : Option (Nat × Nat) := do
  let z := Dsa.digestNumber k.q digest
  let seed := Bytes.shortest k.x ++ Bytes.ofNat (Dsa.wholeBytes k.q) (z % k.q)
  let (nonce, inverse) ← Dsa.nonce? k.q Dsa.maxTries (Dsa.Generator.ofSecret seed)
  let r := Number.powMod k.g nonce k.p % k.q
  let s := inverse * (z + k.x * r) % k.q
  if r = 0 ∨ s = 0 then none else return (r, s)

/-- The signature of a digest. -/
def sign? (k : DsaPrivateKey) (digest : Bytes) : Option Bytes :=
  (k.signPair? digest).map fun (r, s) => Der.encodePair r s

end DsaPrivateKey

end TlsClient
