import TlsClient.Registry.Handshake
import TlsClient.Registry.Record

/-!
# Hellos

The two messages that open a handshake, and what they are made of: randoms, session identifiers and
extensions.  An extension block is optional: it is read only if bytes are left for it, and an empty
one is not written.
-/

namespace TlsClient

/-- The 32 random bytes of a hello. -/
structure HelloRandom where
  bytes : Bytes
  length_eq : bytes.length = 32
  deriving DecidableEq, Repr

namespace HelloRandom

/-- All bytes zero. -/
def zero : HelloRandom := ⟨List.replicate 32 0, rfl⟩

/-- The first 32 bytes, completed by zeros. -/
def ofBytes (bs : Bytes) : HelloRandom :=
  ⟨(bs ++ List.replicate 32 0).take 32, by simp⟩

theorem bytes_ofBytes {bs : Bytes} (h : bs.length = 32) : (ofBytes bs).bytes = bs := by
  simp [ofBytes, ← h]

instance : Wire HelloRandom where
  encode r := r.bytes
  decode := do return ofBytes (← Decoder.take 32 (.missing "Random"))

instance : Describe HelloRandom := ⟨fun r => Bytes.hex r.bytes⟩

end HelloRandom

/-- A session identifier: at most 32 bytes. -/
structure SessionId where
  bytes : Bytes
  length_le : bytes.length ≤ 32
  deriving DecidableEq, Repr

namespace SessionId

/-- The identifier of no session. -/
def empty : SessionId := ⟨[], by decide⟩

/-- The first 32 bytes at most. -/
def ofBytes (bs : Bytes) : SessionId := ⟨bs.take 32, by rw [List.length_take]; omega⟩

theorem bytes_ofBytes {bs : Bytes} (h : bs.length ≤ 32) : (ofBytes bs).bytes = bs :=
  List.take_of_length_le h

instance : Wire SessionId where
  encode s := Encoder.vector 1 s.bytes
  decode := do
    let n ← Decoder.integer 1
    if 32 < n then throw (.trailing "SessionID")
    return ofBytes (← Decoder.take n (.missing "SessionID"))

instance : Describe SessionId := ⟨fun s => Bytes.hex s.bytes⟩

end SessionId

/-- An extension whose content is not interpreted. -/
structure RawExtension where
  typ : ExtensionType
  content : Bytes
  deriving DecidableEq, Repr

instance : Describe RawExtension :=
  ⟨fun x => Text.record "UnknownExtension" [("typ", describe x.typ), ("payload", Bytes.hex x.content)]⟩

/-- An extension of a client hello. -/
inductive ClientExtension where
  /-- The user name for the secure remote password protocol. -/
  | srpIdentity (identity : Bytes)
  | raw (x : RawExtension)
  deriving DecidableEq, Repr

namespace ClientExtension

def typ : ClientExtension → ExtensionType
  | srpIdentity _ => .srp
  | raw x => x.typ

def content : ClientExtension → Bytes
  | srpIdentity identity => Encoder.vector 1 identity
  | raw x => x.content

/-- Reads the content of an extension of a known type. -/
def decodeContent (typ : ExtensionType) : Decoder ClientExtension :=
  if typ = .srp then srpIdentity <$> Decoder.vector 1
  else (fun content => raw ⟨typ, content⟩) <$> Decoder.rest

instance : Wire ClientExtension where
  encode x := Wire.encode x.typ ++ Encoder.vector 2 x.content
  decode := do
    let typ ← Wire.decode
    Decoder.exactly "ClientExtension" (decodeContent typ) (← Decoder.vector 2)

instance : Describe ClientExtension where
  describe
    | srpIdentity identity => Text.applied "SrpIdentity" [Bytes.hex identity]
    | raw x => Text.applied "Unknown" [describe x]

end ClientExtension

/-- An extension of a server hello; none is interpreted. -/
structure ServerExtension where
  raw : RawExtension
  deriving DecidableEq, Repr

namespace ServerExtension

def typ (x : ServerExtension) : ExtensionType := x.raw.typ

instance : Wire ServerExtension where
  encode x := Wire.encode x.typ ++ Encoder.vector 2 x.raw.content
  decode := do
    let typ ← Wire.decode
    return ⟨typ, ← Decoder.vector 2⟩

instance : Describe ServerExtension := ⟨fun x => Text.applied "Unknown" [describe x.raw]⟩

end ServerExtension

/-- An extension block, which is written only if there are extensions. -/
def encodeExtensions {α : Type} [Wire α] (xs : List α) : Bytes :=
  if xs.isEmpty then [] else Encoder.list 2 Wire.encode xs

/-- An extension block, which is there only if bytes are left. -/
def decodeExtensions {α : Type} [Wire α] : Decoder (List α) := do
  if ← Decoder.anyLeft then Decoder.list 2 Wire.decode else return []

/-- A client hello. -/
structure ClientHello where
  version : ProtocolVersion
  random : HelloRandom
  sessionId : SessionId
  suites : List CipherSuite
  compressions : List Compression
  extensions : List ClientExtension
  deriving DecidableEq, Repr

instance : Wire ClientHello where
  encode h :=
    Wire.encode h.version ++ Wire.encode h.random ++ Wire.encode h.sessionId
      ++ Encoder.list 2 Wire.encode h.suites ++ Encoder.list 1 Wire.encode h.compressions
      ++ encodeExtensions h.extensions
  decode := do
    let version ← Wire.decode
    let random ← Wire.decode
    let sessionId ← Wire.decode
    let suites ← Decoder.list 2 Wire.decode
    let compressions ← Decoder.list 1 Wire.decode
    let extensions ← decodeExtensions
    Decoder.finish "ClientHelloPayload"
    return { version, random, sessionId, suites, compressions, extensions }

instance : Describe ClientHello :=
  ⟨fun h => Text.record "ClientHelloPayload"
    [("client_version", describe h.version), ("random", describe h.random),
      ("session_id", describe h.sessionId), ("cipher_suites", describe h.suites),
      ("compression_methods", describe h.compressions), ("extensions", describe h.extensions)]⟩

/-- A server hello. -/
structure ServerHello where
  version : ProtocolVersion
  random : HelloRandom
  sessionId : SessionId
  suite : CipherSuite
  compression : Compression
  extensions : List ServerExtension
  deriving DecidableEq, Repr

instance : Wire ServerHello where
  encode h :=
    Wire.encode h.version ++ Wire.encode h.random ++ Wire.encode h.sessionId
      ++ Wire.encode h.suite ++ Wire.encode h.compression ++ encodeExtensions h.extensions
  decode := do
    let version ← Wire.decode
    let random ← Wire.decode
    let sessionId ← Wire.decode
    let suite ← Wire.decode
    let compression ← Wire.decode
    let extensions ← decodeExtensions
    Decoder.finish "ServerHelloPayload"
    return { version, random, sessionId, suite, compression, extensions }

instance : Describe ServerHello :=
  ⟨fun h => Text.record "ServerHelloPayload"
    [("server_version", describe h.version), ("random", describe h.random),
      ("session_id", describe h.sessionId), ("cipher_suite", describe h.suite),
      ("compression_method", describe h.compression), ("extensions", describe h.extensions)]⟩

end TlsClient
