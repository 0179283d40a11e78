import TlsClient.Number.Modular
import TlsClient.Random

/-!
# RSA keys

A key raises numbers below its modulus to a power.  What is signed or encrypted is padded to the
length of the modulus first: a signature with a fixed filler, so that it can be made only from its
content, a secret with random bytes.
-/

namespace TlsClient

/-- A key that checks signatures and encrypts. -/
structure RsaPublicKey where
  n : Nat
  e : Nat
  deriving DecidableEq, Repr

/-- A key that signs. -/
structure RsaPrivateKey where
  n : Nat
  d : Nat
  deriving DecidableEq, Repr

namespace Rsa

/-- How many bytes padding takes at least. -/
def minPadding : Nat := 11

/-- A padded block: its kind, filler, a zero, the content. -/
def block (kind : UInt8) (filler content : Bytes) : Bytes := 0 :: kind :: filler ++ 0 :: content

/-- The block that is signed, as long as the modulus, if the content leaves room for padding. -/
def signatureBlock? (size : Nat) (content : Bytes) : Option Bytes :=
  if size < content.length + minPadding then none
  else some (block 1 (List.replicate (size - content.length - 3) 0xff) content)

/-- How often a random byte is drawn again because it was zero. -/
def maxRedraws : Nat := 1000000

/-- Draws single bytes until one is not zero, at most `fuel` times. -/
def nonzeroByte : (fuel : Nat) → Drawing UInt8
  | 0 => throw .noRandomness
  | fuel + 1 => do
    let b := (← Drawing.bytes 1).headD 0
    if b = 0 then nonzeroByte fuel else return b

/-- Random bytes without zeros: all are drawn at once, then the zeros among them one by one again. -/
def nonzeroBytes (n : Nat) : Drawing Bytes := do
  (← Drawing.bytes n).mapM fun b => if b = 0 then nonzeroByte maxRedraws else pure b

end Rsa

namespace RsaPublicKey

/-- How many bytes the modulus has. -/
def size (k : RsaPublicKey) : Nat := Bytes.digits k.n

/-- Whether the bytes are the key's signature of a digest. -/
def verifies (k : RsaPublicKey) (digest signature : Bytes) : Bool :=
  let s := Bytes.toNat signature
  signature.length == k.size && s < k.n
    && Rsa.signatureBlock? k.size digest == some (Bytes.ofNat k.size (Number.powMod s k.e k.n))

/-- The largest exponent that is accepted for encryption. -/
def maxExponent : Nat := 1 <<< 33 - 1

/-- How many binary digits the largest modulus has that is accepted for encryption. -/
def maxModulusBits : Nat := 4096

/-- Whether a secret of some length can be encrypted: modulus and exponent are odd, neither is too
large, the exponent is at least two and below the modulus, and there is room for padding. -/
def canEncrypt (k : RsaPublicKey) (length : Nat) : Bool :=
  k.n < 1 <<< maxModulusBits && k.e < k.n && k.n % 2 == 1 && k.e % 2 == 1 && 2 ≤ k.e
    && k.e ≤ maxExponent && length + Rsa.minPadding ≤ k.size

/-- Encrypts a secret behind random padding. -/
def encrypt (k : RsaPublicKey) (secret : Bytes) : Drawing Bytes := do
  let filler ← Rsa.nonzeroBytes (k.size - secret.length - 3)
  return Bytes.ofNat k.size (Number.powMod (Bytes.toNat (Rsa.block 2 filler secret)) k.e k.n)

end RsaPublicKey

/-- The signature of a digest, if the modulus has room for it. -/
def RsaPrivateKey.sign? (k : RsaPrivateKey) (digest : Bytes) : Option Bytes :=
  let size := Bytes.digits k.n
  (Rsa.signatureBlock? size digest).map fun block =>
    Bytes.ofNat size (Number.powMod (Bytes.toNat block) k.d k.n)

end TlsClient
