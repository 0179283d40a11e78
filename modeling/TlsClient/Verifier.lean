import TlsClient.Handshake.Certificate
import TlsClient.Key.Basic

/-!
# Verifiers

A verifier decides whether a certificate chain belongs to the server, and finds the server's key in
it.
-/

namespace TlsClient

/-- What a verifier finds in a chain that it accepts. -/
structure CertifiedKey where
  key : PublicKey
  usage : Option KeyUsage
  deriving DecidableEq, Repr

instance : Describe CertifiedKey :=
  ⟨fun c => Text.record "ServerCertInfo"
    [("public_key", describe c.key), ("key_usage", describe c.usage)]⟩

/-- A rule for accepting certificate chains. -/
structure Verifier where
  verify : List Certificate → Except CertificateError CertifiedKey
  /-- How the verifier is written in a message. -/
  description : String

namespace Verifier

instance : Describe Verifier := ⟨description⟩

/-- Looks the first certificate of a chain up among known ones. -/
def lookup (pins : List (Certificate × CertifiedKey)) :
    List Certificate → Except CertificateError CertifiedKey
  | [] => .error .badEncoding
  | cert :: _ =>
    match pins.find? fun (pinned, _) => pinned == cert with
    | some (_, key) => .ok key
    | none => .error .unknownIssuer

/-- Accepts the certificates that it was given, with the keys that it was told. -/
def pinned (pins : List (Certificate × CertifiedKey)) : Verifier where
  verify := lookup pins
  description :=
    let items := pins.map fun (cert, key) => Text.applied "" [describe cert, describe key]
    Text.record "PinnedKeyVerifier" [("pins", Text.list items)]

/-- Accepts nothing. -/
def refusing (why : CertificateError) : Verifier where
  verify _ := .error why
  description := Text.applied "Refusing" [describe why]

end Verifier

end TlsClient
