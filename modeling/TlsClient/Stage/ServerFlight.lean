import TlsClient.Config
import TlsClient.Stage.Basic
import TlsClient.Stage.Step

/-!
# The server's flight

After its hello the server presents a certificate, sends parameters and may ask for a certificate,
as the suite demands.  The key in the certificate has to fit the key exchange, and parameters are
accepted only as the key exchange allows.
-/

namespace TlsClient

/-- The key that a chain certifies, if the verifier accepts the chain and the key may be used for
the exchange. -/
def Config.checkChain (c : Config) (method : KeyExchangeMethod) (chain : List Certificate) :
    Except Refusal PublicKey :=
  if chain.isEmpty then .error ⟨.badCertificate, .noCertificates⟩
  else
    match c.verifier.verify chain with
    | .error e => .error (TlsError.badCertificate e).refusal
    | .ok certified =>
      if method.certificateKey ≠ some certified.key.algorithm then
        .error ⟨.certificateUnknown, .misbehaved .certificateKeyMismatch⟩
      else if certified.usage.any fun u => !method.permittedBy u then
        .error ⟨.certificateUnknown, .misbehaved .certificateKeyUsage⟩
      else .ok certified.key

/-- The key exchange with the server's parameters accepted. -/
def Flight.checkParams (f : Flight) (key : Option PublicKey) (body : ServerKeyExchangeBody) :
    Except Refusal KeyExchange :=
  match body.interpret f.suite.keyExchange with
  | .error e => .error ⟨.decodeError, .malformed e⟩
  | .ok x =>
    (f.exchange.accept x f.randoms key).mapError fun e => (TlsError.keyExchange e).refusal

namespace Stage

/-- Takes in the server's certificate. -/
def takeCertificate (c : Config) (flight : Flight) (m : Message) : Step Stage := do
  match m.body with
  | .handshake (.certificate chain) _ =>
    let method := flight.suite.keyExchange
    let key ← Step.check (c.checkChain method chain)
    Step.progress .serverCertificateReceived
    let flight := flight.add m
    return if method.expectsServerParams then .serverParams flight (some key)
      else .requestOrDone flight (some key)
  | _ => Step.unexpectedHandshake m [.certificate]

/-- Takes in the server's parameters. -/
def takeParams (flight : Flight) (key : Option PublicKey) (m : Message) : Step Stage := do
  match m.body with
  | .handshake (.serverKeyExchange body) _ =>
    let exchange ← Step.check (flight.checkParams key body)
    Step.progress .serverKeyExchangeReceived
    return .requestOrDone { flight.add m with exchange } key
  | .handshake (.certificate _) _ =>
    if flight.suite.keyExchange = .srp then
      Step.refuse ⟨.unsupportedCertificate, .misbehaved .certificateUnasked⟩
    else Step.unexpectedHandshake m [.serverKeyExchange]
  | _ => Step.unexpectedHandshake m [.serverKeyExchange]

/-- Takes in the server's request for a certificate. -/
def takeRequest (flight : Flight) (key : Option PublicKey) (request : CertificateRequest)
    (m : Message) : Step Stage := do
  Step.note (.certificateAsked request)
  Step.progress .certificateRequestReceived
  return .done (flight.add m) key request

end Stage

end TlsClient
