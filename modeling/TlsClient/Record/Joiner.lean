import TlsClient.Record.Message

/-!
# Joining the payloads of records

Messages are not bound to records: a record may hold several and a message may go over several.  The
handshake joiner cuts the payloads of handshake records into messages by the length in each header;
the alert joiner takes the payloads of alert records two bytes at a time.
-/

namespace TlsClient

/-- The handshake messages that have arrived, and the beginning of the next. -/
structure HandshakeJoiner where
  ready : List Message := []
  buffer : Bytes := []
  deriving DecidableEq, Repr

namespace HandshakeJoiner

/-- The longest body that a handshake message may announce. -/
def maxBody : Nat := 0xffff

/-- What the front of a buffer holds. -/
inductive Front where
  | tooLarge
  | whole
  | incomplete
  deriving DecidableEq, Repr

/-- Judges a buffer by its first header. -/
def front : Bytes → Front
  | _ :: a :: b :: c :: body =>
    let length := Bytes.toNat [a, b, c]
    if maxBody < length then .tooLarge
    else if length ≤ (body.take length).length then .whole
    else .incomplete
  | _ => .incomplete

/-- Moves whole messages from the buffer to the ready ones, as many as there are, up to `fuel`.  On a
failure the messages before the bad one stay ready. -/
def split (version : ProtocolVersion) : (fuel : Nat) → HandshakeJoiner →
    Except DecodeError Nat × HandshakeJoiner
  | 0, j => (.ok 0, j)
  | fuel + 1, j =>
    match front j.buffer with
    | .tooLarge => (.error .handshakeTooLarge, j)
    | .incomplete => (.ok 0, j)
    | .whole =>
      match (Wire.decode : Decoder HandshakeMessage).run j.buffer with
      | .error e => (.error e, j)
      | .ok (m, rest) =>
        let encoded := j.buffer.take (j.buffer.length - rest.length)
        let (r, j) := split version fuel
          { ready := j.ready ++ [⟨version, .handshake m encoded⟩], buffer := rest }
        ((· + 1) <$> r, j)

/-- Adds the payload of a handshake record.  The answer is how many messages it completed; every one
of them takes at least one byte. -/
def push (j : HandshakeJoiner) (r : Record) : Except DecodeError Nat × HandshakeJoiner :=
  if r.payload.isEmpty then (.error .emptyPayload, j)
  else
    let buffer := j.buffer ++ r.payload
    split r.version buffer.length { j with buffer }

/-- Whether no message has begun. -/
def isEmpty (j : HandshakeJoiner) : Bool := j.buffer.isEmpty

/-- The first message that is ready. -/
def pop (j : HandshakeJoiner) : Option Message × HandshakeJoiner :=
  (j.ready.head?, { j with ready := j.ready.tail })

end HandshakeJoiner

/-- The alerts that have arrived, and the first byte of the next. -/
structure AlertJoiner where
  ready : List Alert := []
  buffer : Bytes := []
  deriving DecidableEq, Repr

namespace AlertJoiner

/-- The alerts in a byte string, two bytes each, and the byte left over. -/
def pairs : Bytes → List Alert × Bytes
  | level :: description :: rest =>
    let (alerts, left) := pairs rest
    (⟨⟨level⟩, ⟨description⟩⟩ :: alerts, left)
  | left => ([], left)

/-- Adds the payload of an alert record.  The answer is how many alerts it completed. -/
def push (j : AlertJoiner) (r : Record) : Nat × AlertJoiner :=
  let (alerts, buffer) := pairs (j.buffer ++ r.payload)
  (alerts.length, { ready := j.ready ++ alerts, buffer })

/-- Whether no alert has begun. -/
def isEmpty (j : AlertJoiner) : Bool := j.buffer.isEmpty

/-- The first alert that is ready. -/
def pop (j : AlertJoiner) : Option Alert × AlertJoiner :=
  (j.ready.head?, { j with ready := j.ready.tail })

end AlertJoiner

end TlsClient
