import TlsClient.Registry.Record
import TlsClient.Wire.Decoder

/-!
# Records

A record is a content type, a version, the length of its payload in two bytes, and the payload.
The payload of a protected record is a little longer than what it protects.
-/

namespace TlsClient

/-- A record, protected or not. -/
structure Record where
  typ : ContentType
  version : ProtocolVersion
  payload : Bytes
  deriving DecidableEq, Repr

/-- Why no record can be read. -/
inductive RecordError where
  | tooShortForHeader
  | tooShortForLength
  | tooLarge
  | unknownVersion
  deriving DecidableEq, Repr

instance : Describe RecordError where
  describe
    | .tooShortForHeader => "TooShortForHeader"
    | .tooShortForLength => "TooShortForLength"
    | .tooLarge => "MessageTooLarge"
    | .unknownVersion => "UnknownProtocolVersion"

namespace Record

/-- The most bytes of data that one record carries. -/
def maxFragment : Nat := 16384

/-- The most bytes that the payload of a record takes when protected. -/
def maxPayload : Nat := maxFragment + 2048

def headerLength : Nat := 5

/-- The most bytes that a record takes. -/
def maxLength : Nat := headerLength + maxPayload

def encode (r : Record) : Bytes :=
  Wire.encode r.typ ++ Wire.encode r.version ++ Encoder.vector 2 r.payload

/-- Reads a record from the front of a byte string.  A length beyond the limit and a version other
than TLS 1.0 are refused as soon as the header is there. -/
def decode (bs : Bytes) : Except RecordError (Record × Bytes) :=
  let header : Decoder (ContentType × ProtocolVersion × Nat) := do
    return (← Wire.decode, ← Wire.decode, ← Decoder.integer 2)
  match header.run bs with
  | .error _ => .error .tooShortForHeader
  | .ok ((typ, version, length), bs) =>
    if maxPayload < length then .error .tooLarge
    else if version ≠ .tls1 then .error .unknownVersion
    else if (bs.take length).length < length then .error .tooShortForLength
    else .ok ({ typ, version, payload := bs.take length }, bs.drop length)

/-- The records that carry a payload: at most `maxFragment` bytes each, and one empty record for an
empty payload. -/
def fragments (r : Record) : List Record :=
  if r.payload.isEmpty then [r]
  else (Bytes.chunks maxFragment r.payload).map fun piece => { r with payload := piece }

end Record

end TlsClient
