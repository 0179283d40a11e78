import TlsClient.Handshake.Progress
import TlsClient.KeyExchange.Basic

/-!
# Stages of a handshake

A stage is what a client waits for, with what it has gathered on the way there.  Everything that a
later stage relies on has been checked by the stages before it.
-/

namespace TlsClient

/-- What the client has gathered while it takes in the server's flight. -/
structure Flight where
  randoms : Randoms
  suite : Suite
  transcript : Transcript
  exchange : KeyExchange
  deriving DecidableEq, Repr

/-- Adds a message to the transcript. -/
def Flight.add (f : Flight) (m : Message) : Flight := { f with transcript := f.transcript.add m }

/-- What a client waits for. -/
inductive Stage where
  | serverHello (random : HelloRandom) (transcript : Transcript) (offered : List ExtensionType)
  | certificate (flight : Flight)
  /-- The key is there if the server had to present a certificate. -/
  | serverParams (flight : Flight) (key : Option PublicKey)
  | requestOrDone (flight : Flight) (key : Option PublicKey)
  | done (flight : Flight) (key : Option PublicKey) (request : CertificateRequest)
  /-- The transcript holds what the server's Finished has to prove. -/
  | keyChange (secrets : Secrets) (transcript : Bytes)
  | finished (secrets : Secrets) (transcript : Bytes)
  | traffic
  deriving DecidableEq, Repr

/-- How far the handshake has come at a stage. -/
def Stage.progress : Stage → Progress
  | serverHello .. => .clientHelloSent
  | certificate _ => .serverHelloReceived
  | serverParams _ key => if key.isSome then .serverCertificateReceived else .serverHelloReceived
  | requestOrDone flight _ =>
    if flight.suite.keyExchange.expectsServerParams then .serverKeyExchangeReceived
    else .serverCertificateReceived
  | done .. => .certificateRequestReceived
  | keyChange .. => .clientFinishedSent
  | finished .. => .serverChangeCipherSpecReceived
  | traffic => .done

end TlsClient
