import TlsClient.Registry.Handshake

/-!
# Certificates

Certificates are opaque byte strings here: what they say about a key is for a verifier to find out.
-/

namespace TlsClient

/-- A certificate. -/
structure Certificate where
  bytes : Bytes
  deriving DecidableEq, Repr

namespace Certificate

instance : Wire Certificate where
  encode c := Encoder.vector 3 c.bytes
  decode := Certificate.mk <$> Decoder.vector 3

instance : Describe Certificate :=
  ⟨fun c => Text.applied "Certificate" [toString c.bytes.length ++ " bytes"]⟩

/-- How many bytes a chain may take on the wire. -/
def maxChainBytes : Nat := 0x10000

/-- A chain, each certificate before the one that signs it. -/
def encodeChain (chain : List Certificate) : Bytes := Encoder.list 3 Wire.encode chain

def decodeChain : Decoder (List Certificate) := Decoder.limitedList 3 maxChainBytes Wire.decode

end Certificate

/-- The name of a certificate authority. -/
structure DistinguishedName where
  bytes : Bytes
  deriving DecidableEq, Repr

instance : Wire DistinguishedName where
  encode n := Encoder.vector 2 n.bytes
  decode := DistinguishedName.mk <$> Decoder.vector 2

instance : Describe DistinguishedName :=
  ⟨fun n => Text.applied "DistinguishedName" [Bytes.hex n.bytes]⟩

/-- A server's request for a client certificate. -/
structure CertificateRequest where
  types : List ClientCertificateType
  authorities : List DistinguishedName
  deriving DecidableEq, Repr

instance : Wire CertificateRequest where
  encode r := Encoder.list 1 Wire.encode r.types ++ Encoder.list 2 Wire.encode r.authorities
  decode := do
    let types ← Decoder.list 1 Wire.decode
    let authorities ← Decoder.list 2 Wire.decode
    return { types, authorities }

instance : Describe CertificateRequest :=
  ⟨fun r => Text.record "CertificateRequestPayload"
    [("certtypes", describe r.types), ("canames", describe r.authorities)]⟩

end TlsClient
