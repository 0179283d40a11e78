import TlsClient.Config
import TlsClient.Stage.Basic
import TlsClient.Stage.Step

/-!
# Hellos exchanged

The client opens with an offer that follows from its configuration.  The server has to choose from
it: the version, one of the suites, no compression, and only extensions that were offered.
-/

namespace TlsClient

namespace Config

/-- The extensions that the client offers: the user name if a suite needs a password. -/
def extensions (c : Config) : List ClientExtension :=
  match c.offersSrp, c.srp with
  | true, some credentials => [.srpIdentity credentials.identity]
  | _, _ => []

/-- The client's offer. -/
def hello (c : Config) (random : HelloRandom) : ClientHello :=
  { version := .tls1, random, sessionId := .empty, suites := c.suites.map Suite.id
    compressions := [.null], extensions := c.extensions }

/-- What the server chose, if it was on offer. -/
def checkHello (c : Config) (offered : List ExtensionType) (h : ServerHello) :
    Except Refusal Suite :=
  if h.version ≠ .tls1 then .error ⟨.protocolVersion, .incompatible .version⟩
  else
    match c.suites.find? fun s => s.id == h.suite with
    | none => .error ⟨.illegalParameter, .misbehaved .suiteNotOffered⟩
    | some suite =>
      if h.compression ≠ .null then
        .error ⟨.illegalParameter, .misbehaved .compressionNotOffered⟩
      else if h.extensions.any fun x => !offered.contains x.typ then
        .error ⟨.unsupportedExtension, .misbehaved .extensionNotOffered⟩
      else .ok suite

end Config

namespace Stage

/-- Sends the client's hello. -/
def start (c : Config) (time : Nat) : Step Stage := do
  Step.progress .start
  let random ← Step.draw (Drawing.helloRandom time)
  let hello := Message.ofHandshake (.clientHello (c.hello random))
  Step.send hello
  Step.progress .clientHelloSent
  return .serverHello random (({} : Transcript).add hello) (c.extensions.map ClientExtension.typ)

/-- The stage after a server hello. -/
def afterHello (flight : Flight) : Stage :=
  if flight.suite.keyExchange.expectsCertificate then .certificate flight
  else .serverParams flight none

/-- Takes in the server's hello. -/
def takeHello (c : Config) (random : HelloRandom) (transcript : Transcript)
    (offered : List ExtensionType) (m : Message) : Step Stage := do
  match m.body with
  | .handshake (.serverHello hello) _ =>
    let suite ← Step.check (c.checkHello offered hello)
    Step.note (.suiteChosen suite)
    modify fun s => { s with suite := some suite }
    let exchange ←
      Step.ofExcept ((KeyExchange.start suite.keyExchange c.srp).mapError TlsError.config)
    Step.progress .serverHelloReceived
    return afterHello {
      randoms := ⟨random, hello.random⟩, suite, transcript := transcript.add m, exchange }
  | _ => Step.unexpectedHandshake m [.serverHello]

end Stage

end TlsClient
