import TlsClient.Text.Notation

/-!
# Progress of a handshake

The points that a handshake passes, in order.  Some of them are passed within one step and are only
seen in the log.
-/

namespace TlsClient

/-- How far a handshake has come. -/
inductive Progress where
  | start
  | clientHelloSent
  | serverHelloReceived
  | serverCertificateReceived
  | serverKeyExchangeReceived
  | certificateRequestReceived
  | serverHelloDoneReceived
  | clientKeyExchangeSent
  | certificateVerifySent
  | clientChangeCipherSpecSent
  | clientFinishedSent
  | serverChangeCipherSpecReceived
  | done
  | failed
  deriving DecidableEq, Repr

instance : Describe Progress where
  describe
    | .start => "Start"
    | .clientHelloSent => "ClientHelloSent"
    | .serverHelloReceived => "ServerHelloReceived"
    | .serverCertificateReceived => "ServerCertificateReceived"
    | .serverKeyExchangeReceived => "ServerKeyExchangeReceived"
    | .certificateRequestReceived => "CertificateRequestReceived"
    | .serverHelloDoneReceived => "ServerHelloDoneReceived"
    | .clientKeyExchangeSent => "ClientKeyExchangeSent"
    | .certificateVerifySent => "CertificateVerifySent"
    | .clientChangeCipherSpecSent => "ClientChangeCipherSpecSent"
    | .clientFinishedSent => "ClientFinishedSent"
    | .serverChangeCipherSpecReceived => "ServerChangeCipherSpecReceived"
    | .done => "Done"
    | .failed => "Failed"

end TlsClient
