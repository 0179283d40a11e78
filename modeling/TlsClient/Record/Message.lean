import TlsClient.Handshake.Message
import TlsClient.Record.Basic

/-!
# Messages

What records carry: alerts, handshake messages, the signal of a key change, and data.  A handshake
message is kept together with the bytes it was read from, which are what a transcript is made of.
-/

namespace TlsClient

/-- An alert: two bytes. -/
structure Alert where
  level : AlertLevel
  description : AlertDescription
  deriving DecidableEq, Repr

namespace Alert

instance : Wire Alert where
  encode a := Wire.encode a.level ++ Wire.encode a.description
  decode := do
    let level ← Wire.decode
    let description ← Wire.decode
    Decoder.finish "AlertMessagePayload"
    return { level, description }

instance : Describe Alert :=
  ⟨fun a => Text.record "AlertMessagePayload"
    [("level", describe a.level), ("description", describe a.description)]⟩

end Alert

/-- The signal that the records after it are protected by the new keys: the byte one. -/
structure ChangeCipherSpec where
  deriving DecidableEq, Repr

instance : Wire ChangeCipherSpec where
  encode _ := [1]
  decode := do
    if (← Decoder.integer 1) ≠ 1 then throw .badChangeCipherSpec
    Decoder.finish "ChangeCipherSpecPayload"
    return {}

instance : Describe ChangeCipherSpec := ⟨fun _ => "ChangeCipherSpecPayload"⟩

/-- The content of a message. -/
inductive MessageBody where
  | alert (a : Alert)
  | handshake (parsed : HandshakeMessage) (encoded : Bytes)
  | changeCipherSpec
  | applicationData (bytes : Bytes)
  deriving DecidableEq, Repr

namespace MessageBody

/-- The type of the records that carry the message. -/
def typ : MessageBody → ContentType
  | alert _ => .alert
  | handshake .. => .handshake
  | changeCipherSpec => .changeCipherSpec
  | applicationData _ => .applicationData

/-- The bytes of the message; those of a handshake message are the ones it was read from. -/
def encode : MessageBody → Bytes
  | alert a => Wire.encode a
  | handshake _ encoded => encoded
  | changeCipherSpec => Wire.encode (ChangeCipherSpec.mk)
  | applicationData bytes => bytes

/-- Reads the payload of a record as one message. -/
def decode (typ : ContentType) (payload : Bytes) : Except DecodeError MessageBody :=
  if typ = .applicationData then .ok (applicationData payload)
  else if typ = .alert then alert <$> Decoder.onBytes Wire.decode payload
  else if typ = .handshake then
    (handshake · payload) <$> Decoder.onBytes Wire.decode payload
  else if typ = .changeCipherSpec then
    (fun (_ : ChangeCipherSpec) => changeCipherSpec) <$> Decoder.onBytes Wire.decode payload
  else .error .badContentType

/-- A handshake message in its own form. -/
def ofHandshake (m : HandshakeMessage) : MessageBody := handshake m (Wire.encode m)

instance : Describe MessageBody where
  describe
    | alert a => Text.applied "Alert" [describe a]
    | handshake parsed encoded =>
      Text.record "Handshake" [("parsed", describe parsed), ("encoded", Bytes.hex encoded)]
    | changeCipherSpec => Text.applied "ChangeCipherSpec" [describe (ChangeCipherSpec.mk)]
    | applicationData bytes => Text.applied "ApplicationData" [Bytes.hex bytes]

end MessageBody

/-- A message and the version of the record it came in. -/
structure Message where
  version : ProtocolVersion
  body : MessageBody
  deriving DecidableEq, Repr

namespace Message

/-- Reads a record as one message. -/
def ofRecord (r : Record) : Except DecodeError Message :=
  (Message.mk r.version) <$> MessageBody.decode r.typ r.payload

/-- The message as one record, however long. -/
def toRecord (m : Message) : Record :=
  { typ := m.body.typ, version := m.version, payload := m.body.encode }

/-- The type of the handshake message that this is, if it is one. -/
def handshakeType? (m : Message) : Option HandshakeType :=
  match m.body with
  | .handshake parsed _ => some parsed.typ
  | _ => none

def ofHandshake (m : HandshakeMessage) : Message := ⟨.tls1, .ofHandshake m⟩

def ofAlert (a : Alert) : Message := ⟨.tls1, .alert a⟩

def changeCipherSpec : Message := ⟨.tls1, .changeCipherSpec⟩

instance : Describe Message :=
  ⟨fun m => Text.record "Message" [("version", describe m.version), ("payload", describe m.body)]⟩

end Message

end TlsClient
