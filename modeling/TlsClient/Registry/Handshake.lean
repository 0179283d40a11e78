import TlsClient.Registry.Basic

/-!
# Handshake registries

The message types, cipher suites, certificate types, compression methods and extensions that the
handshake protocol names.
-/

namespace TlsClient

/-- What a handshake message is. -/
structure HandshakeType where
  code : UInt8
  deriving DecidableEq, Repr

namespace HandshakeType

def helloRequest : HandshakeType := ⟨0x00⟩
def clientHello : HandshakeType := ⟨0x01⟩
def serverHello : HandshakeType := ⟨0x02⟩
def certificate : HandshakeType := ⟨0x0b⟩
def serverKeyExchange : HandshakeType := ⟨0x0c⟩
def certificateRequest : HandshakeType := ⟨0x0d⟩
def serverHelloDone : HandshakeType := ⟨0x0e⟩
def certificateVerify : HandshakeType := ⟨0x0f⟩
def clientKeyExchange : HandshakeType := ⟨0x10⟩
def finished : HandshakeType := ⟨0x14⟩

instance : Registry HandshakeType where
  title := "HandshakeType"
  width := 1
  code x := x.code.toNat
  ofCode n := ⟨UInt8.ofNat n⟩
  names :=
    [(0x00, "HelloRequest"), (0x01, "ClientHello"), (0x02, "ServerHello"), (0x0b, "Certificate"),
     (0x0c, "ServerKeyExchange"), (0x0d, "CertificateRequest"), (0x0e, "ServerHelloDone"),
     (0x0f, "CertificateVerify"), (0x10, "ClientKeyExchange"), (0x14, "Finished")]

instance : Wire HandshakeType := ⟨Registry.encode, Registry.decode⟩

instance : Describe HandshakeType := ⟨Registry.describe⟩

end HandshakeType

/-- A cipher suite, known or not. -/
structure CipherSuite where
  code : UInt16
  deriving DecidableEq, Repr

namespace CipherSuite

instance : Registry CipherSuite where
  title := "CipherSuite"
  width := 2
  code x := x.code.toNat
  ofCode n := ⟨UInt16.ofNat n⟩
  names :=
    [(0x0000, "TLS_NULL_WITH_NULL_NULL"), (0x000a, "TLS_RSA_WITH_3DES_EDE_CBC_SHA"),
     (0x0013, "TLS_DHE_DSS_WITH_3DES_EDE_CBC_SHA"), (0x0016, "TLS_DHE_RSA_WITH_3DES_EDE_CBC_SHA"),
     (0x002f, "TLS_RSA_WITH_AES_128_CBC_SHA"), (0x0032, "TLS_DHE_DSS_WITH_AES_128_CBC_SHA"),
     (0x0033, "TLS_DHE_RSA_WITH_AES_128_CBC_SHA"), (0x0035, "TLS_RSA_WITH_AES_256_CBC_SHA"),
     (0x0038, "TLS_DHE_DSS_WITH_AES_256_CBC_SHA"), (0x0039, "TLS_DHE_RSA_WITH_AES_256_CBC_SHA"),
     (0x00ff, "TLS_EMPTY_RENEGOTIATION_INFO_SCSV"), (0xc01a, "TLS_SRP_SHA_WITH_3DES_EDE_CBC_SHA"),
     (0xc01b, "TLS_SRP_SHA_RSA_WITH_3DES_EDE_CBC_SHA"),
     (0xc01c, "TLS_SRP_SHA_DSS_WITH_3DES_EDE_CBC_SHA"),
     (0xc01d, "TLS_SRP_SHA_WITH_AES_128_CBC_SHA"),
     (0xc01e, "TLS_SRP_SHA_RSA_WITH_AES_128_CBC_SHA"),
     (0xc01f, "TLS_SRP_SHA_DSS_WITH_AES_128_CBC_SHA"),
     (0xc020, "TLS_SRP_SHA_WITH_AES_256_CBC_SHA"),
     (0xc021, "TLS_SRP_SHA_RSA_WITH_AES_256_CBC_SHA"),
     (0xc022, "TLS_SRP_SHA_DSS_WITH_AES_256_CBC_SHA")]

instance : Wire CipherSuite := ⟨Registry.encode, Registry.decode⟩

instance : Describe CipherSuite := ⟨Registry.describe⟩

end CipherSuite

/-- What kind of certificate a server asks for. -/
structure ClientCertificateType where
  code : UInt8
  deriving DecidableEq, Repr

namespace ClientCertificateType

def rsaSign : ClientCertificateType := ⟨0x01⟩
def dssSign : ClientCertificateType := ⟨0x02⟩

instance : Registry ClientCertificateType where
  title := "ClientCertificateType"
  width := 1
  code x := x.code.toNat
  ofCode n := ⟨UInt8.ofNat n⟩
  names :=
    [(0x01, "RSASign"), (0x02, "DSSSign"), (0x03, "RSAFixedDH"), (0x04, "DSSFixedDH")]

instance : Wire ClientCertificateType := ⟨Registry.encode, Registry.decode⟩

instance : Describe ClientCertificateType := ⟨Registry.describe⟩

end ClientCertificateType

/-- A compression method. -/
structure Compression where
  code : UInt8
  deriving DecidableEq, Repr

namespace Compression

def null : Compression := ⟨0x00⟩

instance : Registry Compression where
  title := "Compression"
  width := 1
  code x := x.code.toNat
  ofCode n := ⟨UInt8.ofNat n⟩
  names :=
    [(0x00, "Null"), (0x01, "Deflate")]

instance : Wire Compression := ⟨Registry.encode, Registry.decode⟩

instance : Describe Compression := ⟨Registry.describe⟩

end Compression

/-- What a hello extension is. -/
structure ExtensionType where
  code : UInt16
  deriving DecidableEq, Repr

namespace ExtensionType

def srp : ExtensionType := ⟨0x0c⟩

instance : Registry ExtensionType where
  title := "ExtensionType"
  width := 2
  code x := x.code.toNat
  ofCode n := ⟨UInt16.ofNat n⟩
  names :=
    [(0x0000, "ServerName"), (0x000c, "SRP"), (0xff01, "RenegotiationInfo")]

instance : Wire ExtensionType := ⟨Registry.encode, Registry.decode⟩

instance : Describe ExtensionType := ⟨Registry.describe⟩

end ExtensionType

end TlsClient
