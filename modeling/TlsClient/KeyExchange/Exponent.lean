import TlsClient.Random

/-!
# Private exponents

Diffie-Hellman and password exchanges both raise the generator of a group to a random power.
-/

namespace TlsClient.Drawing

/-- How many bytes are drawn beyond the length of the modulus, so that hardly any exponent is more
likely than another. -/
def surplus : Nat := 8

/-- Draws an exponent from two to the modulus less two. -/
def exponent (modulus : Nat) : Drawing Nat := do
  return Bytes.toNat (← bytes (Bytes.digits modulus + surplus)) % (modulus - 3) + 2

end TlsClient.Drawing
