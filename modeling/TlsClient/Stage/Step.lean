import TlsClient.Session.Alerts

/-!
# Steps of a handshake

A step works on the session and may fail.  A failure that calls for an alert of its own sends it at
once; for any other the alert follows from the error.
-/

namespace TlsClient

/-- A computation on a session that may fail. -/
abbrev Step := ExceptT TlsError (StateM Session)

/-- Why something is refused, and the alert that says so. -/
structure Refusal where
  alert : AlertDescription
  error : TlsError
  deriving DecidableEq, Repr

/-- The refusal that follows from an error. -/
def TlsError.refusal (e : TlsError) : Refusal := ⟨e.alert, e⟩

namespace Step

variable {α : Type}

def note (n : Notice) : Step Unit := modify fun s => s.note n

/-- Says how far the handshake has come. -/
def progress (p : Progress) : Step Unit := note (.progress p)

def send (m : Message) : Step Unit := modify fun s => s.send m

/-- Goes on with what there is, or fails. -/
def ofExcept (result : Except TlsError α) : Step α := fun s => (result, s)

/-- Draws random bytes from the session's source. -/
def draw (d : Drawing α) : Step α := fun s =>
  let (result, random) := d.run s.random
  (result, { s with random })

/-- Sends an alert and fails. -/
def refuse (r : Refusal) : Step α := do
  modify fun s => s.abort r.alert
  throw r.error

/-- Goes on with what a check gives, or refuses as it says. -/
def check : Except Refusal α → Step α
  | .ok a => pure a
  | .error r => refuse r

/-- Fails because a message is not one of the content types that are expected. -/
def unexpectedMessage (m : Message) (expected : List ContentType) : Step α := do
  note (.unexpectedMessage expected m.body.typ)
  throw (.unexpectedMessage expected m.body.typ)

/-- Fails because a message is not one of the handshake messages that are expected. -/
def unexpectedHandshake (m : Message) (expected : List HandshakeType) : Step α := do
  match m.handshakeType? with
  | some got =>
    note (.unexpectedHandshake expected got)
    throw (.unexpectedHandshake expected got)
  | none => unexpectedMessage m [.handshake]

end Step

end TlsClient
