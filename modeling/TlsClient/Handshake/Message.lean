import TlsClient.Handshake.Certificate
import TlsClient.Handshake.Hello
import TlsClient.Handshake.ServerParams

/-!
# Handshake messages

A handshake message is its type, the length of its body in three bytes, and the body.
-/

namespace TlsClient

/-- A handshake message. -/
inductive HandshakeMessage where
  | helloRequest
  | clientHello (hello : ClientHello)
  | serverHello (hello : ServerHello)
  | certificate (chain : List Certificate)
  | serverKeyExchange (body : ServerKeyExchangeBody)
  | certificateRequest (request : CertificateRequest)
  | serverHelloDone
  | certificateVerify (signature : Bytes)
  | clientKeyExchange (contribution : Bytes)
  | finished (verifyData : Bytes)
  /-- A message of a type that has no name. -/
  | unknown (typ : HandshakeType) (body : Bytes)
  deriving DecidableEq, Repr

namespace HandshakeMessage

/-- The type of a message. -/
def typ : HandshakeMessage → HandshakeType
  | helloRequest => .helloRequest
  | clientHello _ => .clientHello
  | serverHello _ => .serverHello
  | certificate _ => .certificate
  | serverKeyExchange _ => .serverKeyExchange
  | certificateRequest _ => .certificateRequest
  | serverHelloDone => .serverHelloDone
  | certificateVerify _ => .certificateVerify
  | clientKeyExchange _ => .clientKeyExchange
  | finished _ => .finished
  | unknown typ _ => typ

/-- The body of a message. -/
def body : HandshakeMessage → Bytes
  | helloRequest | serverHelloDone => []
  | clientHello h => Wire.encode h
  | serverHello h => Wire.encode h
  | certificate chain => Certificate.encodeChain chain
  | serverKeyExchange b => Wire.encode b
  | certificateRequest r => Wire.encode r
  | certificateVerify signature => Encoder.vector 2 signature
  | clientKeyExchange contribution => Encoder.vector 2 contribution
  | finished verifyData => verifyData
  | unknown _ b => b

/-- Reads the body of a message of a given type. -/
def decodeBody (typ : HandshakeType) : Decoder HandshakeMessage :=
  if typ = .helloRequest then pure helloRequest
  else if typ = .clientHello then clientHello <$> Wire.decode
  else if typ = .serverHello then serverHello <$> Wire.decode
  else if typ = .certificate then certificate <$> Certificate.decodeChain
  else if typ = .serverKeyExchange then serverKeyExchange <$> Wire.decode
  else if typ = .certificateRequest then certificateRequest <$> Wire.decode
  else if typ = .serverHelloDone then pure serverHelloDone
  else if typ = .certificateVerify then certificateVerify <$> Decoder.vector 2
  else if typ = .clientKeyExchange then clientKeyExchange <$> Decoder.vector 2
  else if typ = .finished then finished <$> Decoder.rest
  else unknown typ <$> Decoder.rest

instance : Wire HandshakeMessage where
  encode m := Wire.encode m.typ ++ Encoder.vector 3 m.body
  decode := do
    let typ ← Wire.decode
    Decoder.exactly "HandshakeMessagePayload" (decodeBody typ) (← Decoder.vector 3)

def describeBody : HandshakeMessage → String
  | helloRequest => "HelloRequest"
  | clientHello h => Text.applied "ClientHello" [describe h]
  | serverHello h => Text.applied "ServerHello" [describe h]
  | certificate chain => Text.applied "Certificate" [describe chain]
  | serverKeyExchange b => Text.applied "ServerKeyExchange" [describe b]
  | certificateRequest r => Text.applied "CertificateRequest" [describe r]
  | serverHelloDone => "ServerHelloDone"
  | certificateVerify signature => Text.applied "CertificateVerify" [Bytes.hex signature]
  | clientKeyExchange contribution => Text.applied "ClientKeyExchange" [Bytes.hex contribution]
  | finished verifyData => Text.applied "Finished" [Bytes.hex verifyData]
  | unknown _ b => Text.applied "Unknown" [Bytes.hex b]

instance : Describe HandshakeMessage :=
  ⟨fun m => Text.record "HandshakeMessagePayload"
    [("typ", describe m.typ), ("payload", m.describeBody)]⟩

end HandshakeMessage

end TlsClient
