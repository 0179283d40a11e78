import TlsClient.Error.Io
import TlsClient.Registry.Handshake
import TlsClient.Registry.Record

/-!
# Errors

Everything that can end a connection or keep it from starting, each as its cause.  `TlsError.text`
gives the wording, `TlsError.kind` the broad class, and the functions named `alert` the alert that
tells the peer.
-/

namespace TlsClient

namespace DecodeError

instance : Describe DecodeError where
  describe
    | handshakeTooLarge => "HandshakePayloadTooLarge"
    | badChangeCipherSpec => "InvalidCcs"
    | badContentType => "InvalidContentType"
    | emptyPayload => "InvalidEmptyPayload"
    | tooLarge => "MessageTooLarge"
    | tooShort => "MessageTooShort"
    | missing what => Text.applied "MissingData" [Text.quoted what]
    | trailing what => Text.applied "TrailingData" [Text.quoted what]
    | unexpected what => Text.applied "UnexpectedMessage" [Text.quoted what]
    | unknownVersion => "UnknownProtocolVersion"

def alert : DecodeError → AlertDescription
  | badChangeCipherSpec | badContentType => .unexpectedMessage
  | unknownVersion => .protocolVersion
  | tooLarge => .recordOverflow
  | _ => .decodeError

end DecodeError

/-- How a peer can break the protocol with messages that are well formed. -/
inductive Misbehaviour where
  | certificateKeyMismatch
  | certificateKeyUsage
  | certificateUnasked
  | keyChangeInsideMessage
  | recordInsideMessage
  | suiteNotOffered
  | compressionNotOffered
  | extensionNotOffered
  deriving DecidableEq, Repr

instance : Describe Misbehaviour where
  describe
    | .certificateKeyMismatch => "CertificateKeyDoesNotMatchKeyExchange"
    | .certificateKeyUsage => "CertificateKeyUsageForbidsKeyExchange"
    | .certificateUnasked => "CertificateSentForAnonymousKeyExchange"
    | .keyChangeInsideMessage => "KeyEpochWithPendingFragment"
    | .recordInsideMessage => "MessageInterleavedWithHandshakeMessage"
    | .suiteNotOffered => "SelectedUnofferedCipherSuite"
    | .compressionNotOffered => "SelectedUnofferedCompression"
    | .extensionNotOffered => "UnsolicitedServerHelloExtension"

/-- Why the two sides cannot talk. -/
inductive Incompatibility where
  /-- The server chose another version of the protocol. -/
  | version
  deriving DecidableEq, Repr

instance : Describe Incompatibility where
  describe
    | .version => "ServerDoesNotSupportTls10"

/-- Why a key exchange failed. -/
inductive KeyExchangeError where
  | malformedParameters
  | badSignature
  | illegalParameter
  | missingServerKey
  | encryptionFailed
  deriving DecidableEq, Repr

namespace KeyExchangeError

instance : Describe KeyExchangeError where
  describe
    | malformedParameters => "MalformedParameters"
    | badSignature => "BadSignature"
    | illegalParameter => "IllegalParameter"
    | missingServerKey => "MissingServerKey"
    | encryptionFailed => "EncryptionFailed"

def alert : KeyExchangeError → AlertDescription
  | malformedParameters => .decodeError
  | badSignature => .badCertificate
  | illegalParameter => .illegalParameter
  | missingServerKey => .certificateUnknown
  | encryptionFailed => .internalError

end KeyExchangeError

/-- Why a verifier refused a certificate chain. -/
inductive CertificateError where
  | badEncoding
  | expired
  | notValidYet
  | revoked
  | unknownIssuer
  | badSignature
  | notValidForName
  | invalidPurpose
  | applicationVerificationFailure
  /-- A reason of the verifier's own. -/
  | other (text : String)
  deriving DecidableEq, Repr

namespace CertificateError

instance : Describe CertificateError where
  describe
    | badEncoding => "BadEncoding"
    | expired => "Expired"
    | notValidYet => "NotValidYet"
    | revoked => "Revoked"
    | unknownIssuer => "UnknownIssuer"
    | badSignature => "BadSignature"
    | notValidForName => "NotValidForName"
    | invalidPurpose => "InvalidPurpose"
    | applicationVerificationFailure => "ApplicationVerificationFailure"
    | other text => Text.applied "Other" [Text.applied "OtherError" [Text.quoted text]]

def alert : CertificateError → AlertDescription
  | badEncoding | notValidForName => .badCertificate
  | expired | notValidYet => .certificateExpired
  | revoked => .certificateRevoked
  | unknownIssuer => .unknownCa
  | badSignature => .decryptError
  | invalidPurpose => .unsupportedCertificate
  | applicationVerificationFailure => .userCanceled
  | other _ => .certificateUnknown

end CertificateError

/-- Why a configuration cannot be used. -/
inductive ConfigError where
  | noCipherSuites
  | srpSuitesWithoutCredentials
  | srpCredentialsWithoutSuites
  | emptyClientCertChain
  deriving DecidableEq, Repr

instance : Describe ConfigError where
  describe
    | .noCipherSuites => "NoCipherSuites"
    | .srpSuitesWithoutCredentials => "SrpSuitesWithoutCredentials"
    | .srpCredentialsWithoutSuites => "SrpCredentialsWithoutSuites"
    | .emptyClientCertChain => "EmptyClientCertChain"

/-- Why a connection failed or cannot be used. -/
inductive TlsError where
  | unexpectedMessage (expected : List ContentType) (got : ContentType)
  | unexpectedHandshake (expected : List HandshakeType) (got : HandshakeType)
  | malformed (why : DecodeError)
  | noCertificates
  | cannotDecrypt
  | cannotEncrypt
  | incompatible (why : Incompatibility)
  | misbehaved (why : Misbehaviour)
  | keyExchange (why : KeyExchangeError)
  | alertReceived (description : AlertDescription)
  | badCertificate (why : CertificateError)
  | transport (why : IoError)
  | config (why : ConfigError)
  | connectionClosed
  | general (text : String)
  | noRandomness
  | handshakeIncomplete
  | oversizedRecord
  | other (text : String)
  deriving DecidableEq, Repr

/-- The broad classes of errors. -/
inductive ErrorClass where
  | protocolViolation
  | cryptoFailure
  | peerAlert
  | transportFailure
  | configuration
  | internal
  deriving DecidableEq, Repr

instance : Describe ErrorClass where
  describe
    | .protocolViolation => "ProtocolViolation"
    | .cryptoFailure => "CryptoFailure"
    | .peerAlert => "PeerAlert"
    | .transportFailure => "TransportFailure"
    | .configuration => "ConfigurationError"
    | .internal => "Internal"

namespace TlsError

/-- The class of an error. -/
def kind : TlsError → ErrorClass
  | unexpectedMessage .. | unexpectedHandshake .. | malformed _ | noCertificates | incompatible _
  | misbehaved _ | oversizedRecord | handshakeIncomplete => .protocolViolation
  | cannotDecrypt | keyExchange _ | badCertificate _ => .cryptoFailure
  | alertReceived _ => .peerAlert
  | transport _ | connectionClosed => .transportFailure
  | config _ => .configuration
  | cannotEncrypt | general _ | noRandomness | other _ => .internal

/-- The wording of an error. -/
def text : TlsError → String
  | unexpectedMessage expected got =>
    "received unexpected message: got " ++ describe got ++ " when expecting "
      ++ " or ".intercalate (expected.map describe)
  | unexpectedHandshake expected got =>
    "received unexpected handshake message: got " ++ describe got ++ " when expecting "
      ++ " or ".intercalate (expected.map describe)
  | malformed why => "received corrupt message of type " ++ describe why
  | noCertificates => "peer sent no certificates"
  | cannotDecrypt => "cannot decrypt peer's message"
  | cannotEncrypt => "cannot encrypt message"
  | incompatible why => "peer is incompatible: " ++ describe why
  | misbehaved why => "peer misbehaved: " ++ describe why
  | keyExchange why => "key exchange failed: " ++ describe why
  | alertReceived description => "received fatal alert: " ++ describe description
  | badCertificate why => "invalid peer certificate: " ++ describe why
  | transport why => "transport failed: " ++ why.text
  | config why => "unusable configuration: " ++ describe why
  | connectionClosed => "connection closed"
  | general text => "unexpected error: " ++ text
  | noRandomness => "failed to get random bytes"
  | handshakeIncomplete => "handshake not complete"
  | oversizedRecord => "peer sent excess record size"
  | other text => "other error: " ++ text

/-- The text behind an error of another library. -/
def source : TlsError → Option String
  | other text => some text
  | _ => none

/-- The alert that an error calls for, where its cause decides it. -/
def causeAlert : TlsError → Option AlertDescription
  | malformed why => some why.alert
  | keyExchange why => some why.alert
  | badCertificate why => some why.alert
  | _ => none

/-- The alert that reports an error to the peer. -/
def alert (e : TlsError) : AlertDescription :=
  e.causeAlert.getD <|
    match e with
    | unexpectedMessage .. | unexpectedHandshake .. => .unexpectedMessage
    | cannotDecrypt => .badRecordMac
    | oversizedRecord => .recordOverflow
    | incompatible _ => .handshakeFailure
    | misbehaved _ => .illegalParameter
    | _ => .internalError

/-- Whether two errors say the same.  Failures of the transport are compared by kind alone, and
errors of other libraries are never the same. -/
def same : TlsError → TlsError → Bool
  | transport a, transport b => a.kind == b.kind
  | badCertificate (.other _), badCertificate (.other _) => false
  | other _, other _ => false
  | a, b => a == b

/-- How a read or a write on the connection reports an error. -/
def toIo : TlsError → IoError
  | transport why => why
  | connectionClosed => ⟨.notConnected, text connectionClosed⟩
  | e => ⟨.invalidData, e.text⟩

end TlsError

end TlsClient
