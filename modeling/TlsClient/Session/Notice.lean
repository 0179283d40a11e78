import TlsClient.Error.Basic
import TlsClient.Handshake.Certificate
import TlsClient.Handshake.Progress
import TlsClient.Record.Message
import TlsClient.Suite

/-!
# Notices

What a connection tells whoever watches it, as values; `Notice.text` is the wording and
`Notice.level` the weight.
-/

namespace TlsClient

/-- How much a notice weighs. -/
inductive LogLevel where
  | error
  | warn
  | debug
  deriving DecidableEq, Repr

instance : Describe LogLevel where
  describe
    | .error => "ERROR"
    | .warn => "WARN"
    | .debug => "DEBUG"

/-- Something worth telling. -/
inductive Notice where
  | progress (reached : Progress)
  | suiteChosen (suite : Suite)
  | certificateAsked (request : CertificateRequest)
  | certificateUnfit (asked : List ClientCertificateType) (ours : ClientCertificateType)
  | certificatesSent (count : Nat)
  | unexpectedMessage (expected : List ContentType) (got : ContentType)
  | unexpectedHandshake (expected : List HandshakeType) (got : HandshakeType)
  | unknownDropped (typ : ContentType)
  | closeReceived
  | warningReceived (alert : Alert)
  | fatalReceived (alert : Alert)
  | sendingClose
  | sendingWarning (description : AlertDescription)
  | sendingFatal (description : AlertDescription)
  | undeliverable (why : TlsError)
  | transportFailed (why : IoError)
  deriving DecidableEq, Repr

namespace Notice

def level : Notice → LogLevel
  | fatalReceived _ | undeliverable _ | transportFailed _ => .error
  | certificateUnfit .. | unexpectedMessage .. | unexpectedHandshake .. | warningReceived _
  | sendingWarning _ | sendingFatal _ => .warn
  | progress _ | suiteChosen _ | certificateAsked _ | certificatesSent _ | unknownDropped _
  | closeReceived | sendingClose => .debug

def text : Notice → String
  | progress reached => "Client handshake now " ++ describe reached
  | suiteChosen suite => "Using ciphersuite " ++ describe suite
  | certificateAsked request =>
    "Got CertificateRequest for types " ++ describe request.types ++ ", "
      ++ toString request.authorities.length ++ " CA names"
  | certificateUnfit asked ours =>
    "Server wants a client certificate of type " ++ describe asked ++ ", we have " ++ describe ours
  | certificatesSent count =>
    "Sending client certificate chain of " ++ toString count ++ " certificates"
  | unexpectedMessage expected got =>
    "Received a " ++ describe got ++ " message while expecting " ++ describe expected
  | unexpectedHandshake expected got =>
    "Received a " ++ describe got ++ " handshake message while expecting " ++ describe expected
  | unknownDropped typ => "Dropping record of unknown content type " ++ describe typ
  | closeReceived => "Received close_notify"
  | warningReceived alert => "TLS alert warning received: " ++ describe alert
  | fatalReceived alert => "TLS alert received: " ++ describe alert
  | sendingClose => "Sending warning alert " ++ describe AlertDescription.closeNotify
  | sendingWarning description => "Sending warning alert " ++ describe description
  | sendingFatal description => "Sending fatal alert " ++ describe description
  | undeliverable why => "Dropping record we cannot encrypt: " ++ why.text
  | transportFailed why => "Transport failed: " ++ why.text

/-- The notice as a line of a log. -/
def line (n : Notice) : String := describe n.level ++ " " ++ n.text

end Notice

end TlsClient
