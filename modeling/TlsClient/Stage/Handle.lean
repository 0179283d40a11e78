import TlsClient.Session.Plaintext
import TlsClient.Stage.ClientFlight
import TlsClient.Stage.Hello
import TlsClient.Stage.ServerFlight

/-!
# Messages at each stage

What a message does at each stage, up to the proof that ends the handshake and the data after it.
-/

namespace TlsClient.Stage

/-- Takes in the signal of the key change: what the server sends from here on is protected. -/
def takeKeyChange (secrets : Secrets) (transcript : Bytes) (m : Message) : Step Stage := do
  match m.body with
  | .changeCipherSpec =>
    modify Session.startReceiving
    Step.progress .serverChangeCipherSpecReceived
    return .finished secrets transcript
  | _ => Step.unexpectedMessage m [.changeCipherSpec]

/-- Takes in the proof that the server saw what the client saw. -/
def takeFinished (secrets : Secrets) (transcript : Bytes) (m : Message) : Step Stage := do
  match m.body with
  | .handshake (.finished proof) _ =>
    if secrets.serverVerify (Transcript.digest transcript) ≠ proof then
      Step.refuse ⟨.handshakeFailure, .cannotDecrypt⟩
    modify Session.startTraffic
    Step.progress .done
    return .traffic
  | _ => Step.unexpectedHandshake m [.finished]

/-- Takes in data. -/
def takeData (m : Message) : Step Stage := do
  match m.body with
  | .applicationData bytes =>
    modify fun s => s.receiveData bytes
    return .traffic
  | _ => Step.unexpectedMessage m [.applicationData]

/-- What a message does at a stage. -/
def handle (c : Config) : Stage → Message → Step Stage
  | serverHello random transcript offered, m => takeHello c random transcript offered m
  | certificate flight, m => takeCertificate c flight m
  | serverParams flight key, m => takeParams flight key m
  | requestOrDone flight key, m =>
    match m.body with
    | .handshake .serverHelloDone _ => answer c flight key none m
    | .handshake (.certificateRequest request) _ => takeRequest flight key request m
    | _ => Step.unexpectedHandshake m [.certificateRequest, .serverHelloDone]
  | done flight key request, m =>
    match m.body with
    | .handshake .serverHelloDone _ => answer c flight key (some request) m
    | _ => Step.unexpectedHandshake m [.serverHelloDone]
  | keyChange secrets transcript, m => takeKeyChange secrets transcript m
  | finished secrets transcript, m => takeFinished secrets transcript m
  | traffic, m => takeData m

end TlsClient.Stage
