import TlsClient.ByteQueue
import TlsClient.Cipher.RecordLayer
import TlsClient.Random
import TlsClient.Session.Notice

/-!
# Sessions

A session is what both the handshake and the user of a connection work on: the protection of
records, the bytes that wait on their way in and out, and how far the session is open.  It remembers
what it did, so that properties of whole runs can be read off its history.
-/

namespace TlsClient

/-- Whether a session can be used. -/
inductive Status where
  | opened
  /-- The session has said that it will send nothing more. -/
  | closing
  | closed
  deriving DecidableEq, Repr

instance : Describe Status where
  describe
    | .opened => "Open"
    | .closing => "Closing"
    | .closed => "Closed"

/-- Something that a session did. -/
inductive Event where
  | notice (n : Notice)
  /-- Reported a secret with which the traffic can be read. -/
  | secret (label : String) (random master : Bytes)
  /-- Received a record; this is what was in it, and whether it took keys to open it. -/
  | opened (keyed : Bool) (r : Record)
  /-- Gave a message to the handshake. -/
  | handled (m : Message)
  /-- Began to send a message; the records that carry it follow. -/
  | sent (m : Message)
  /-- Put a record on its way, which is `wire` once protected. -/
  | queued (plain wire : Record)
  deriving DecidableEq, Repr

/-- How many bytes wait in a session, and whether the peer has closed. -/
structure IoState where
  toWrite : Nat
  toRead : Nat
  peerClosed : Bool
  deriving DecidableEq, Repr

/-- The state of a session. -/
structure Session where
  random : RandomSource
  layer : RecordLayer := {}
  suite : Option Suite := none
  status : Status := .opened
  /-- Whether the handshake is over. -/
  traffic : Bool := false
  closeReceived : Bool := false
  /-- What the peer wrote and the user has not read. -/
  incoming : ByteQueue := {}
  /-- What the user wrote before it could be sent. -/
  early : ByteQueue := {}
  /-- Records that wait to be written to the transport. -/
  outgoing : ByteQueue := {}
  /-- What the session did, the latest first. -/
  history : List Event := []

namespace Session

/-! ## What can be seen -/

def isHandshaking (s : Session) : Bool := !s.traffic

def wantsWrite (s : Session) : Bool := !s.outgoing.isEmpty

def hasPlaintext (s : Session) : Bool := !s.incoming.isEmpty

def ioState (s : Session) : IoState :=
  { toWrite := s.outgoing.length, toRead := s.incoming.length, peerClosed := s.closeReceived }

/-- The notices so far, in order. -/
def notices (s : Session) : List Notice :=
  s.history.reverse.filterMap fun e => match e with
    | .notice n => some n
    | _ => none

/-- The secrets reported so far, in order. -/
def secrets (s : Session) : List (String × Bytes × Bytes) :=
  s.history.reverse.filterMap fun e => match e with
    | .secret label random master => some (label, random, master)
    | _ => none

/-- The records put on their way so far, in order, before and after protection. -/
def sent (s : Session) : List (Record × Record) :=
  s.history.reverse.filterMap fun e => match e with
    | .queued plain wire => some (plain, wire)
    | _ => none

/-! ## Changes -/

def happened (s : Session) (e : Event) : Session := { s with history := e :: s.history }

def note (s : Session) (n : Notice) : Session := s.happened (.notice n)

/-- Puts a record on its way. -/
def enqueue (s : Session) (plain wire : Record) : Session :=
  { s with outgoing := s.outgoing.push wire.encode }.happened (.queued plain wire)

/-- Protects a record and puts it on its way.  It is dropped if that is not possible. -/
def sendRecord (s : Session) (r : Record) : Session :=
  if s.layer.exhausted then s
  else
    match s.layer.protect r with
    | (.ok wire, layer) => { s with layer }.enqueue r wire
    | (.error e, layer) => { s with layer }.note (.undeliverable e)

/-- Says that nothing more will be sent, once. -/
def sendClose (s : Session) : Session :=
  if s.status ≠ .opened then s
  else
    let close := Message.ofAlert ⟨.warning, .closeNotify⟩
    let s := { s.note .sendingClose with status := .closing }.happened (.sent close)
    close.toRecord.fragments.foldl sendRecord s

/-- Sends one fragment.  When the record numbers are about to run out the session is closed first. -/
def sendFragment (s : Session) (r : Record) : Session :=
  (if s.layer.wantsClose then s.sendClose else s).sendRecord r

/-- Sends a message in as many records as it needs. -/
def send (s : Session) (m : Message) : Session :=
  m.toRecord.fragments.foldl sendFragment (s.happened (.sent m))

/-- Protects what is sent and received with new keys, once the key change is signalled. -/
def prepareKeys (s : Session) (sending receiving : Protection) : Session :=
  { s with layer := { sending := .prepare sending, receiving := .prepare receiving } }

/-- From here on what is sent is protected. -/
def startSending (s : Session) : Session :=
  { s with layer := { s.layer with sending := s.layer.sending.start } }

/-- From here on what is received is protected. -/
def startReceiving (s : Session) : Session :=
  { s with layer := { s.layer with receiving := s.layer.receiving.start } }

/-- Gives up what was to be written: nothing can be sent any more. -/
def loseTransport (s : Session) : Session := { s with status := .closed, outgoing := {} }

end Session

end TlsClient
