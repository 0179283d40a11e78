import TlsClient.Hash.Sha1
import TlsClient.KeyExchange.DiffieHellman

/-!
# Secure remote password

The client shows that it knows a password, and the server that it knows a verifier of it, without
either of them being sent.
-/

namespace TlsClient

/-- What a client is known by: a name and a password. -/
structure SrpCredentials where
  identity : Bytes
  password : Bytes
  deriving DecidableEq, Repr

/-- A group, the salt of the password and the server's public value. -/
structure SrpGroup where
  n : Nat
  g : Nat
  salt : Bytes
  share : Nat
  deriving DecidableEq, Repr

namespace SrpGroup

/-- The numbers that some parameters spell. -/
def ofParams (s : SrpParams) : SrpGroup :=
  { n := Bytes.toNat s.n, g := Bytes.toNat s.g, salt := s.salt, share := Bytes.toNat s.share }

/-- Whether the modulus is above three, the generator not trivial, and the server's public value not
a multiple of the modulus. -/
def isSafe (s : SrpGroup) : Bool :=
  3 < s.n && 2 ≤ s.g && s.g < s.n && s.share % s.n != 0

/-- A number in as many bytes as the modulus has, or more if it needs them. -/
def pad (s : SrpGroup) (a : Nat) : Bytes := Bytes.padLeft (Bytes.digits s.n) (Bytes.shortest a)

/-- The hash of two padded numbers, as a number. -/
def hashPair (s : SrpGroup) (a b : Nat) : Nat := Bytes.toNat (Hash.Sha1.hash (s.pad a ++ s.pad b))

/-- The exponent that stands for the password. -/
def passwordExponent (s : SrpGroup) (c : SrpCredentials) : Nat :=
  let inner := Hash.Sha1.hash (c.identity ++ Bytes.ofString ":" ++ c.password)
  Bytes.toNat (Hash.Sha1.hash (s.salt ++ inner))

/-- The multiplier of the verifier in the server's public value. -/
def multiplier (s : SrpGroup) : Nat := s.hashPair s.n s.g

/-- The server's public value without the part that hides it, modulo the modulus. -/
def unmasked (s : SrpGroup) (x : Nat) : Nat :=
  (s.share % s.n + s.n - s.multiplier * Number.powMod s.g x s.n % s.n) % s.n

/-- Draws an exponent and agrees on a secret. -/
def agree (s : SrpGroup) (c : SrpCredentials) : Drawing Agreement := do
  let a ← Drawing.exponent s.n
  let share := Number.powMod s.g a s.n
  let u := s.hashPair share s.share
  if u = 0 then throw (.keyExchange .illegalParameter)
  let x := s.passwordExponent c
  return {
    contribution := Bytes.shortest share
    premaster := Bytes.shortest (Number.powMod (s.unmasked x) (a + u * x) s.n) }

end SrpGroup

end TlsClient
