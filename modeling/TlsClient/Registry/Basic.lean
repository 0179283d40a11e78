import TlsClient.Text.Notation
import TlsClient.Wire.Decoder

/-!
# Code registries

A registry is a space of numeric codes of a fixed width, some of which have names.  Every code can
be read and written, named or not, so that what one side does not know can still be reported.
-/

namespace TlsClient

/-- A space of codes, some of them named. -/
class Registry (α : Type) where
  /-- What a member is called. -/
  title : String
  /-- How many bytes a code takes. -/
  width : Nat
  /-- The code of a member. -/
  code : α → Nat
  /-- The member with a code; digits beyond the width are dropped. -/
  ofCode : Nat → α
  /-- The codes that have names. -/
  names : List (Nat × String)

namespace Registry

variable {α : Type} [Registry α]

/-- The name of a member, if its code has one. -/
def name? (x : α) : Option String := (names α).lookup (code x)

/-- The name of a member, or its title and code in hexadecimal. -/
def describe (x : α) : String :=
  (name? x).getD (Text.applied (title α) ["0x" ++ Text.hexNumber (code x)])

/-- The code of a member, big-endian. -/
def encode (x : α) : Bytes := Bytes.ofNat (width α) (code x)

/-- Reads a code; if it is missing the failure names the registry. -/
def decode : Decoder α := do
  return ofCode (Bytes.toNat (← Decoder.take (width α) (.missing (title α))))

end Registry

end TlsClient
