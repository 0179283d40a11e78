import TlsClient.Registry.Basic

/-!
# Record registries

The versions, content types and alerts of the record protocol.
-/

namespace TlsClient

/-- A protocol version. -/
structure ProtocolVersion where
  code : UInt16
  deriving DecidableEq, Repr

namespace ProtocolVersion

def tls1 : ProtocolVersion := ⟨0x301⟩

instance : Registry ProtocolVersion where
  title := "ProtocolVersion"
  width := 2
  code x := x.code.toNat
  ofCode n := ⟨UInt16.ofNat n⟩
  names :=
    [(0x0300, "SSLv3"), (0x0301, "TLSv1_0"), (0x0302, "TLSv1_1"), (0x0303, "TLSv1_2")]

instance : Wire ProtocolVersion := ⟨Registry.encode, Registry.decode⟩

instance : Describe ProtocolVersion := ⟨Registry.describe⟩

end ProtocolVersion

/-- What a record carries. -/
structure ContentType where
  code : UInt8
  deriving DecidableEq, Repr

namespace ContentType

def changeCipherSpec : ContentType := ⟨0x14⟩
def alert : ContentType := ⟨0x15⟩
def handshake : ContentType := ⟨0x16⟩
def applicationData : ContentType := ⟨0x17⟩

instance : Registry ContentType where
  title := "ContentType"
  width := 1
  code x := x.code.toNat
  ofCode n := ⟨UInt8.ofNat n⟩
  names :=
    [(0x14, "ChangeCipherSpec"), (0x15, "Alert"), (0x16, "Handshake"), (0x17, "ApplicationData")]

instance : Wire ContentType := ⟨Registry.encode, Registry.decode⟩

instance : Describe ContentType := ⟨Registry.describe⟩

end ContentType

/-- How severe an alert is. -/
structure AlertLevel where
  code : UInt8
  deriving DecidableEq, Repr

namespace AlertLevel

def warning : AlertLevel := ⟨0x01⟩
def fatal : AlertLevel := ⟨0x02⟩

instance : Registry AlertLevel where
  title := "AlertLevel"
  width := 1
  code x := x.code.toNat
  ofCode n := ⟨UInt8.ofNat n⟩
  names :=
    [(0x01, "Warning"), (0x02, "Fatal")]

instance : Wire AlertLevel := ⟨Registry.encode, Registry.decode⟩

instance : Describe AlertLevel := ⟨Registry.describe⟩

end AlertLevel

/-- What an alert is about. -/
structure AlertDescription where
  code : UInt8
  deriving DecidableEq, Repr

namespace AlertDescription

def closeNotify : AlertDescription := ⟨0x00⟩
def unexpectedMessage : AlertDescription := ⟨0x0a⟩
def badRecordMac : AlertDescription := ⟨0x14⟩
def recordOverflow : AlertDescription := ⟨0x16⟩
def handshakeFailure : AlertDescription := ⟨0x28⟩
def badCertificate : AlertDescription := ⟨0x2a⟩
def unsupportedCertificate : AlertDescription := ⟨0x2b⟩
def certificateRevoked : AlertDescription := ⟨0x2c⟩
def certificateExpired : AlertDescription := ⟨0x2d⟩
def certificateUnknown : AlertDescription := ⟨0x2e⟩
def illegalParameter : AlertDescription := ⟨0x2f⟩
def unknownCa : AlertDescription := ⟨0x30⟩
def decodeError : AlertDescription := ⟨0x32⟩
def decryptError : AlertDescription := ⟨0x33⟩
def protocolVersion : AlertDescription := ⟨0x46⟩
def internalError : AlertDescription := ⟨0x50⟩
def userCanceled : AlertDescription := ⟨0x5a⟩
def noRenegotiation : AlertDescription := ⟨0x64⟩
def unsupportedExtension : AlertDescription := ⟨0x6e⟩

instance : Registry AlertDescription where
  title := "AlertDescription"
  width := 1
  code x := x.code.toNat
  ofCode n := ⟨UInt8.ofNat n⟩
  names :=
    [(0x00, "CloseNotify"), (0x0a, "UnexpectedMessage"), (0x14, "BadRecordMac"),
     (0x15, "DecryptionFailed"), (0x16, "RecordOverflow"), (0x1e, "DecompressionFailure"),
     (0x28, "HandshakeFailure"), (0x29, "NoCertificate"), (0x2a, "BadCertificate"),
     (0x2b, "UnsupportedCertificate"), (0x2c, "CertificateRevoked"), (0x2d, "CertificateExpired"),
     (0x2e, "CertificateUnknown"), (0x2f, "IllegalParameter"), (0x30, "UnknownCA"),
     (0x31, "AccessDenied"), (0x32, "DecodeError"), (0x33, "DecryptError"),
     (0x3c, "ExportRestriction"), (0x46, "ProtocolVersion"), (0x47, "InsufficientSecurity"),
     (0x50, "InternalError"), (0x5a, "UserCanceled"), (0x64, "NoRenegotiation"),
     (0x6e, "UnsupportedExtension"), (0x73, "UnknownPSKIdentity")]

instance : Wire AlertDescription := ⟨Registry.encode, Registry.decode⟩

instance : Describe AlertDescription := ⟨Registry.describe⟩

end AlertDescription

end TlsClient
