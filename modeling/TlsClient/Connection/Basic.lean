import TlsClient.Record.Deframer
import TlsClient.Record.Joiner
import TlsClient.Stage.Handle

/-!
# Connections

A connection takes the bytes that the server sends apart into records and messages, gives these to
the stage that waits for them, and keeps what the stages send.  The first error ends it: the server
is told, and from then on every call gives the same error.
-/

namespace TlsClient

/-- A connection: its session, the stage of its handshake or the error that ended it, and what has
arrived and was not yet taken apart. -/
structure Connection where
  config : Config
  session : Session
  stage : Except TlsError Stage
  deframer : Deframer := {}
  handshakes : HandshakeJoiner := {}
  alerts : AlertJoiner := {}

namespace Connection

/-- Starts a handshake.  The time is in seconds since 1970; before that it counts as zero. -/
def start (config : Config) (time : Int) (random : RandomSource) : Except TlsError Connection :=
  match (Stage.start config time.toNat).run { random } with
  | (.ok stage, session) => .ok { config, session, stage := .ok stage }
  | (.error e, _) => .error e

/-! ## What can be seen -/

/-- How far the handshake has come. -/
def progress (c : Connection) : Progress :=
  match c.stage with
  | .ok stage => stage.progress
  | .error _ => .failed

def isHandshaking (c : Connection) : Bool := c.session.isHandshaking

def wantsWrite (c : Connection) : Bool := c.session.wantsWrite

/-- Whether more bytes from the server are of use: not while plaintext waits to be read, nor, during
the handshake, while something waits to be written. -/
def wantsRead (c : Connection) : Bool :=
  c.stage.isOk && c.session.status != .closed && !c.session.hasPlaintext
    && (!c.isHandshaking || !c.wantsWrite)

instance : Describe Connection :=
  ⟨fun c => Text.openRecord "ClientConnection"
    [("handshake_state", describe c.progress), ("status", describe c.session.status)]⟩

/-! ## Taking in records -/

/-- Gives a message to the stage.  Once the handshake is over a request for another is declined. -/
def deliver (c : Connection) (stage : Stage) (m : Message) : Except TlsError Stage × Connection :=
  if c.session.traffic ∧ m.handshakeType? = some .helloRequest then
    (.ok stage, { c with session := c.session.sendWarning .noRenegotiation })
  else
    let (result, session) := (stage.handle c.config m).run (c.session.happened (.handled m))
    (result, { c with session })

/-- Gives messages to the stages one after another. -/
def deliverAll (c : Connection) (stage : Stage) : List Message → Except TlsError Stage × Connection
  | [] => (.ok stage, c)
  | m :: rest =>
    match c.deliver stage m with
    | (.ok stage, c) => c.deliverAll stage rest
    | failed => failed

/-- Takes in a record of handshake messages: all that it completes are cut out before the first of
them takes effect. -/
def takeHandshakes (c : Connection) (stage : Stage) (r : Record) :
    Except TlsError Stage × Connection :=
  match c.handshakes.push r with
  | (.error e, handshakes) => (.error (.malformed e), { c with handshakes })
  | (.ok _, handshakes) =>
    { c with handshakes := { handshakes with ready := [] } }.deliverAll stage handshakes.ready

/-- Takes in a record of alerts. -/
def takeAlerts (c : Connection) (stage : Stage) (r : Record) :
    Except TlsError Stage × Connection :=
  let (_, alerts) := c.alerts.push r
  let (result, session) := c.session.receiveAlerts alerts.ready
  (result.map fun () => stage, { c with session, alerts := { alerts with ready := [] } })

/-- Takes in a record that is a message by itself. -/
def takeMessage (c : Connection) (stage : Stage) (r : Record) :
    Except TlsError Stage × Connection :=
  match Message.ofRecord r with
  | .ok m => c.deliver stage m
  | .error e => (.error (.malformed e), c)

/-- Takes in what was in a record.  Nothing may come between the parts of a handshake message. -/
def takeOpened (c : Connection) (stage : Stage) (r : Record) :
    Except TlsError Stage × Connection :=
  if !c.handshakes.isEmpty && r.typ != .handshake then
    let why := if r.typ = .changeCipherSpec then Misbehaviour.keyChangeInsideMessage
      else .recordInsideMessage
    (.error (.misbehaved why), { c with session := c.session.abort .unexpectedMessage })
  else if r.typ = .handshake then c.takeHandshakes stage r
  else if r.typ = .alert then c.takeAlerts stage r
  else if r.typ = .changeCipherSpec ∨ r.typ = .applicationData then c.takeMessage stage r
  else (.ok stage, { c with session := c.session.note (.unknownDropped r.typ) })

/-- Takes in a record. -/
def takeRecord (c : Connection) (stage : Stage) (r : Record) :
    Except TlsError Stage × Connection :=
  match c.session.layer.unprotect r with
  | (.error e, layer) => (.error e, { c with session := { c.session with layer } })
  | (.ok r, layer) =>
    let keyed := c.session.layer.receiving.isActive
    { c with session := { c.session with layer }.happened (.opened keyed r) }.takeOpened stage r

/-- Takes in the records that have arrived, at most `fuel` of them, up to a close notification. -/
def takeRecords : (fuel : Nat) → Connection → Stage → Except TlsError Stage × Connection
  | 0, c, stage => (.ok stage, c)
  | fuel + 1, c, stage =>
    if c.session.closeReceived then (.ok stage, c)
    else
      match c.deframer.pop with
      | (.error e, deframer) => (.error e, { c with deframer })
      | (.ok none, deframer) => (.ok stage, { c with deframer })
      | (.ok (some r), deframer) =>
        match { c with deframer }.takeRecord stage r with
        | (.ok stage, c) => takeRecords fuel c stage
        | failed => failed

/-- Ends the connection with an error.  The server is told unless it was told before. -/
def fail (c : Connection) (e : TlsError) : Connection :=
  { c with session := c.session.abort e.alert, stage := .error e }

/-- Takes in everything that has arrived; every record takes at least one byte. -/
def process (c : Connection) : Except TlsError IoState × Connection :=
  match c.stage with
  | .error e => (.error e, c)
  | .ok stage =>
    match c.takeRecords (c.deframer.buffer.length + 1) stage with
    | (.ok stage, c) => (.ok c.session.ioState, { c with stage := .ok stage })
    | (.error e, c) => (.error e, c.fail e)

/-! ## The user's side -/

/-- Takes what the user writes. -/
def write (c : Connection) (bs : Bytes) : Except IoError Nat × Connection :=
  let (result, session) := c.session.write bs
  (result.mapError TlsError.toIo, { c with session })

/-- Gives the user up to `n` bytes of what the server wrote. -/
def read (c : Connection) (n : Nat) : Except IoError Bytes × Connection :=
  let (result, session) := c.session.read n
  (result, { c with session })

/-- Tells the server that nothing more will be sent. -/
def close (c : Connection) : Connection := { c with session := c.session.sendClose }

end Connection

end TlsClient
