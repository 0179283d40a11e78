import TlsClient.Config
import TlsClient.Stage.Basic
import TlsClient.Stage.Step

/-!
# The client's flight

When the server is done the client answers in one go: a certificate if it was asked for one, its
contribution to the key exchange, a proof that it owns the certificate, the key change, and the proof
that it saw what the server saw.  Everything after the key change is protected.
-/

namespace TlsClient

/-- The kind of certificate that a key is good for. -/
def KeyAlgorithm.clientCertificate : KeyAlgorithm → ClientCertificateType
  | .rsa => .rsaSign
  | .dsa => .dssSign

namespace Stage

/-- Sends a handshake message and adds it to the transcript. -/
def emit (m : HandshakeMessage) (transcript : Transcript) : Step Transcript := do
  Step.send (.ofHandshake m)
  return transcript.add (.ofHandshake m)

/-- The client's certificate, if it has one of a kind that the server asks for. -/
def chooseAuth (c : Config) (request : CertificateRequest) : Step (Option ClientAuth) := do
  match c.auth with
  | none => return none
  | some auth =>
    let ours := auth.key.algorithm.clientCertificate
    if request.types.contains ours then return some auth
    Step.note (.certificateUnfit request.types ours)
    return none

/-- Answers the server's request, if there was one, with a chain that may be empty. -/
def sendCertificate (c : Config) (request : Option CertificateRequest) (transcript : Transcript) :
    Step (Option ClientAuth × Transcript) := do
  match request with
  | none => return (none, transcript)
  | some request =>
    let auth ← chooseAuth c request
    let chain := (auth.map ClientAuth.chain).getD []
    Step.note (.certificatesSent chain.length)
    return (auth, ← emit (.certificate chain) transcript)

/-- Proves that the client owns the certificate that it sent. -/
def sendVerify (auth : Option ClientAuth) (transcript : Transcript) : Step Transcript := do
  let (signed, transcript) := transcript.takeVerify
  match auth, signed with
  | some auth, some signed =>
    let signature ← Step.ofExcept (auth.key.sign signed)
    let transcript ← emit (.certificateVerify signature) transcript
    Step.progress .certificateVerifySent
    return transcript
  | _, _ => return transcript

/-- Reports the master secret if the configuration says so. -/
def reportSecrets (c : Config) (secrets : Secrets) : Step Unit := do
  if c.logsSecrets then
    modify fun s =>
      s.happened (.secret "CLIENT_RANDOM" secrets.randoms.client.bytes secrets.master)

/-- Signals the key change and starts to protect what is sent. -/
def changeKeys (secrets : Secrets) : Step Unit := do
  let receiving ← Step.ofExcept secrets.receiving
  let sending ← Step.ofExcept secrets.sending
  modify fun s => s.prepareKeys sending receiving
  Step.send .changeCipherSpec
  modify Session.startSending
  Step.progress .clientChangeCipherSpecSent

/-- Proves that the client saw what the server saw: the transcript for the server's own proof, which
covers the client's. -/
def sendFinished (secrets : Secrets) (transcript : Transcript) : Step Bytes := do
  let finished :=
    Message.ofHandshake (.finished (secrets.clientVerify (Transcript.digest transcript.client)))
  Step.send finished
  return transcript.server ++ Transcript.contribution finished

/-- Answers the server's flight. -/
def answer (c : Config) (flight : Flight) (key : Option PublicKey)
    (request : Option CertificateRequest) (m : Message) : Step Stage := do
  Step.progress .serverHelloDoneReceived
  let (auth, transcript) ← sendCertificate c request (flight.transcript.add m)
  let agreement ← Step.draw (flight.exchange.agree key)
  let transcript ← emit (.clientKeyExchange agreement.contribution) transcript
  Step.progress .clientKeyExchangeSent
  let transcript ← sendVerify auth transcript
  let secrets := Secrets.ofPremaster agreement.premaster flight.randoms flight.suite
  reportSecrets c secrets
  changeKeys secrets
  let transcript ← sendFinished secrets transcript
  Step.progress .clientFinishedSent
  return .keyChange secrets transcript

end Stage

end TlsClient
