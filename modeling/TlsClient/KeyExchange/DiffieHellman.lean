import TlsClient.Handshake.ServerParams
import TlsClient.KeyExchange.Exponent
import TlsClient.Number.Primality

/-!
# Diffie-Hellman

The two sides raise each other's public value to their own exponent and get the same number.
-/

namespace TlsClient

/-- What a key exchange gives: what the server is told, and the secret it then shares. -/
structure Agreement where
  contribution : Bytes
  premaster : Bytes
  deriving DecidableEq, Repr

/-- A group and the server's public value in it. -/
structure DhGroup where
  p : Nat
  g : Nat
  share : Nat
  deriving DecidableEq, Repr

namespace DhGroup

/-- The numbers that some parameters spell. -/
def ofParams (d : DhParams) : DhGroup :=
  { p := Bytes.toNat d.p, g := Bytes.toNat d.g, share := Bytes.toNat d.share }

/-- Whether the modulus is a prime above two and neither the generator nor the public value is
trivial. -/
def isSafe (d : DhGroup) : Bool :=
  2 < d.p && Number.isProbablePrime d.p && 2 ≤ d.g && d.g ≤ d.p - 2 && 2 ≤ d.share
    && d.share ≤ d.p - 1

/-- Draws an exponent and agrees on a secret. -/
def agree (d : DhGroup) : Drawing Agreement := do
  let x ← Drawing.exponent d.p
  return {
    contribution := Bytes.shortest (Number.powMod d.g x d.p)
    premaster := Bytes.shortest (Number.powMod d.share x d.p) }

end DhGroup

end TlsClient
