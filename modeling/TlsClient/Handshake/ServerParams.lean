import TlsClient.Suite

/-!
# The server's key exchange parameters

What a ServerKeyExchange message holds depends on the key exchange in use, so it is kept raw until
that is known.  The parameters of a signed exchange are followed by the signature.
-/

namespace TlsClient

/-- A Diffie-Hellman group and the server's public value in it. -/
structure DhParams where
  p : Bytes
  g : Bytes
  share : Bytes
  deriving DecidableEq, Repr

instance : Wire DhParams where
  encode d := Encoder.vector 2 d.p ++ Encoder.vector 2 d.g ++ Encoder.vector 2 d.share
  decode := do
    let p ← Decoder.vector 2
    let g ← Decoder.vector 2
    let share ← Decoder.vector 2
    return { p, g, share }

instance : Describe DhParams :=
  ⟨fun d => Text.record "ServerDhParams"
    [("dh_p", Bytes.hex d.p), ("dh_g", Bytes.hex d.g), ("dh_ys", Bytes.hex d.share)]⟩

/-- A password group, the salt of the password and the server's public value. -/
structure SrpParams where
  n : Bytes
  g : Bytes
  salt : Bytes
  share : Bytes
  deriving DecidableEq, Repr

instance : Wire SrpParams where
  encode s :=
    Encoder.vector 2 s.n ++ Encoder.vector 2 s.g ++ Encoder.vector 1 s.salt
      ++ Encoder.vector 2 s.share
  decode := do
    let n ← Decoder.vector 2
    let g ← Decoder.vector 2
    let salt ← Decoder.vector 1
    let share ← Decoder.vector 2
    return { n, g, salt, share }

instance : Describe SrpParams :=
  ⟨fun s => Text.record "ServerSrpParams"
    [("srp_n", Bytes.hex s.n), ("srp_g", Bytes.hex s.g), ("srp_s", Bytes.hex s.salt),
      ("srp_b", Bytes.hex s.share)]⟩

/-- The parameters of either family. -/
inductive ServerParams where
  | dh (params : DhParams)
  | srp (params : SrpParams)
  deriving DecidableEq, Repr

namespace ServerParams

/-- The bytes that a signature covers. -/
def encode : ServerParams → Bytes
  | dh d => Wire.encode d
  | srp s => Wire.encode s

/-- Reads the parameters of a key exchange; the RSA exchange has none. -/
def decode : KeyExchangeMethod → Decoder ServerParams
  | .dheRsa | .dheDss => dh <$> Wire.decode
  | .srp | .srpRsa | .srpDss => srp <$> Wire.decode
  | .rsa => throw (.unexpected "ServerKeyExchange")

instance : Describe ServerParams where
  describe
    | dh d => Text.applied "Dh" [describe d]
    | srp s => Text.applied "Srp" [describe s]

end ServerParams

/-- Parameters and, if the exchange is signed, the signature. -/
structure ServerKeyExchange where
  params : ServerParams
  signature : Option Bytes
  deriving DecidableEq, Repr

namespace ServerKeyExchange

def encode (x : ServerKeyExchange) : Bytes :=
  x.params.encode ++ (x.signature.map (Encoder.vector 2)).getD []

/-- Reads the parameters and the signature of a key exchange. -/
def decode (method : KeyExchangeMethod) : Decoder ServerKeyExchange := do
  let params ← ServerParams.decode method
  let signature ← if method.isSigned then some <$> Decoder.vector 2 else pure none
  return { params, signature }

instance : Describe ServerKeyExchange :=
  ⟨fun x => Text.record "ServerKeyExchange"
    [("params", describe x.params), ("signature", Text.optional (x.signature.map Bytes.hex))]⟩

end ServerKeyExchange

/-- A ServerKeyExchange message, before or after its meaning is known. -/
inductive ServerKeyExchangeBody where
  | known (x : ServerKeyExchange)
  | raw (bytes : Bytes)
  deriving DecidableEq, Repr

namespace ServerKeyExchangeBody

/-- The content of the message for a key exchange.  Nothing may be left over. -/
def interpret (method : KeyExchangeMethod) :
    ServerKeyExchangeBody → Except DecodeError ServerKeyExchange
  | known x => .ok x
  | raw bytes => Decoder.exactly "ServerKeyExchangePayload" (ServerKeyExchange.decode method) bytes

instance : Wire ServerKeyExchangeBody where
  encode
    | known x => x.encode
    | raw bytes => bytes
  decode := raw <$> Decoder.rest

instance : Describe ServerKeyExchangeBody where
  describe
    | known x => Text.applied "Known" [describe x]
    | raw bytes => Text.applied "Unknown" [Bytes.hex bytes]

end ServerKeyExchangeBody

end TlsClient
