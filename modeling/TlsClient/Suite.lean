import TlsClient.Registry.Handshake

/-!
# Cipher suites

A suite fixes how keys are exchanged and how records are protected; every suite authenticates
records with HMAC-SHA1.  `Suite.all` lists the supported ones, strongest first.
-/

namespace TlsClient

/-- The kinds of signing keys. -/
inductive KeyAlgorithm where
  | rsa
  | dsa
  deriving DecidableEq, Repr

instance : Describe KeyAlgorithm where
  describe
    | .rsa => "RSA"
    | .dsa => "DSA"

/-- What a certified key may be used for. -/
structure KeyUsage where
  digitalSignature : Bool
  keyEncipherment : Bool
  deriving DecidableEq, Repr

instance : Describe KeyUsage :=
  ⟨fun u => Text.record "KeyUsage"
    [("digital_signature", toString u.digitalSignature),
      ("key_encipherment", toString u.keyEncipherment)]⟩

/-- How the two sides agree on a secret. -/
inductive KeyExchangeMethod where
  /-- The client encrypts a secret under the server's certified key. -/
  | rsa
  /-- Ephemeral Diffie-Hellman, signed by an RSA key. -/
  | dheRsa
  /-- Ephemeral Diffie-Hellman, signed by a DSA key. -/
  | dheDss
  /-- Secure remote password, without a certificate. -/
  | srp
  /-- Secure remote password, signed by an RSA key. -/
  | srpRsa
  /-- Secure remote password, signed by a DSA key. -/
  | srpDss
  deriving DecidableEq, Repr

namespace KeyExchangeMethod

instance : Describe KeyExchangeMethod where
  describe
    | rsa => "RSA"
    | dheRsa => "DHE_RSA"
    | dheDss => "DHE_DSS"
    | srp => "SRP"
    | srpRsa => "SRP_RSA"
    | srpDss => "SRP_DSS"

/-- Whether the server signs its parameters. -/
def isSigned : KeyExchangeMethod → Bool
  | rsa | srp => false
  | _ => true

/-- Whether a password takes part. -/
def isSrp : KeyExchangeMethod → Bool
  | srp | srpRsa | srpDss => true
  | _ => false

/-- Whether the server presents a certificate. -/
def expectsCertificate (m : KeyExchangeMethod) : Bool := m != srp

/-- Whether the server sends parameters of its own. -/
def expectsServerParams (m : KeyExchangeMethod) : Bool := m != rsa

/-- The kind of key that the server's certificate has to hold. -/
def certificateKey : KeyExchangeMethod → Option KeyAlgorithm
  | rsa | dheRsa | srpRsa => some .rsa
  | dheDss | srpDss => some .dsa
  | srp => none

/-- Whether a key with this usage may be used; only RSA keys are held to it. -/
def permittedBy (m : KeyExchangeMethod) (u : KeyUsage) : Bool :=
  match m with
  | rsa => u.keyEncipherment
  | dheRsa | srpRsa => u.digitalSignature
  | dheDss | srpDss | srp => true

end KeyExchangeMethod

/-- How records are encrypted. -/
inductive BulkCipher where
  | aes128
  | aes256
  | tripleDes
  deriving DecidableEq, Repr

namespace BulkCipher

instance : Describe BulkCipher where
  describe
    | aes128 => "Aes128Cbc"
    | aes256 => "Aes256Cbc"
    | tripleDes => "TripleDesEdeCbc"

/-- The bytes of a key. -/
def keyLength : BulkCipher → Nat
  | aes128 => 16
  | aes256 => 32
  | tripleDes => 24

/-- The bytes of a block, and of an initialisation vector. -/
def blockLength : BulkCipher → Nat
  | aes128 | aes256 => 16
  | tripleDes => 8

end BulkCipher

/-- The bytes of a record's authentication code, and of the key for it. -/
def macLength : Nat := 20

/-- A supported cipher suite. -/
structure Suite where
  id : CipherSuite
  keyExchange : KeyExchangeMethod
  bulk : BulkCipher
  deriving DecidableEq, Repr

namespace Suite

instance : Describe Suite := ⟨fun s => describe s.id⟩

/-- How many bytes of key material the suite needs: for each side a key for authentication, a key
for encryption and an initialisation vector. -/
def keyBlockLength (s : Suite) : Nat := (macLength + s.bulk.keyLength + s.bulk.blockLength) * 2

/-- The supported suites: the stronger cipher first, then a password and a signature, a password, a
signature, and neither. -/
def all : List Suite :=
  [⟨⟨0xc022⟩, .srpDss, .aes256⟩, ⟨⟨0xc021⟩, .srpRsa, .aes256⟩, ⟨⟨0xc020⟩, .srp, .aes256⟩,
    ⟨⟨0x0038⟩, .dheDss, .aes256⟩, ⟨⟨0x0039⟩, .dheRsa, .aes256⟩, ⟨⟨0x0035⟩, .rsa, .aes256⟩,
    ⟨⟨0xc01f⟩, .srpDss, .aes128⟩, ⟨⟨0xc01e⟩, .srpRsa, .aes128⟩, ⟨⟨0xc01d⟩, .srp, .aes128⟩,
    ⟨⟨0x0032⟩, .dheDss, .aes128⟩, ⟨⟨0x0033⟩, .dheRsa, .aes128⟩, ⟨⟨0x002f⟩, .rsa, .aes128⟩,
    ⟨⟨0xc01c⟩, .srpDss, .tripleDes⟩, ⟨⟨0xc01b⟩, .srpRsa, .tripleDes⟩, ⟨⟨0xc01a⟩, .srp, .tripleDes⟩,
    ⟨⟨0x0013⟩, .dheDss, .tripleDes⟩, ⟨⟨0x0016⟩, .dheRsa, .tripleDes⟩, ⟨⟨0x000a⟩, .rsa, .tripleDes⟩]

/-- The supported suite with an identifier. -/
def find? (id : CipherSuite) : Option Suite := all.find? fun s => s.id == id

/-- The supported suites that need no password. -/
def withoutSrp : List Suite := all.filter fun s => !s.keyExchange.isSrp

end Suite

end TlsClient
