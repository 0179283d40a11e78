import TlsClient.Key.Basic
import TlsClient.KeyExchange.Password
import TlsClient.Secrets

/-!
# Key exchange

A key exchange is started when the suite is known, takes in the server's parameters if there are
any, and ends with a secret.  Parameters are used only if they are safe and, where the exchange is
signed, only under a signature of the server's certified key.
-/

namespace TlsClient

/-- A key exchange under way.  The parameters are there once they have been accepted. -/
inductive KeyExchange where
  | rsa
  | dhe (method : KeyExchangeMethod) (group : Option DhGroup)
  | srp (method : KeyExchangeMethod) (credentials : SrpCredentials) (group : Option SrpGroup)
  deriving DecidableEq, Repr

namespace KeyExchange

/-- Starts a key exchange; one with a password needs credentials. -/
def start (method : KeyExchangeMethod) (credentials : Option SrpCredentials) :
    Except ConfigError KeyExchange :=
  match method with
  | .rsa => .ok rsa
  | .dheRsa | .dheDss => .ok (dhe method none)
  | .srp | .srpRsa | .srpDss =>
    match credentials with
    | some c => .ok (srp method c none)
    | none => .error .srpSuitesWithoutCredentials

/-- What the server signs: both randoms and its parameters. -/
def signedContent (randoms : Randoms) (params : ServerParams) : Bytes :=
  randoms.client.bytes ++ randoms.server.bytes ++ params.encode

/-- Checks the signature of the server's parameters, if the exchange is signed. -/
def checkSignature (method : KeyExchangeMethod) (x : ServerKeyExchange) (randoms : Randoms)
    (key : Option PublicKey) : Except KeyExchangeError Unit :=
  if !method.isSigned then .ok ()
  else
    match x.signature, key with
    | none, _ => .error .malformedParameters
    | some _, none => .error .missingServerKey
    | some signature, some key =>
      if some key.algorithm ≠ method.certificateKey then .error .missingServerKey
      else if key.verifies (signedContent randoms x.params) signature then .ok ()
      else .error .badSignature

/-- Takes in the server's parameters.  Their range is checked before their signature. -/
def accept (k : KeyExchange) (x : ServerKeyExchange) (randoms : Randoms) (key : Option PublicKey) :
    Except KeyExchangeError KeyExchange :=
  match k, x.params with
  | dhe method _, .dh params => do
    let group := DhGroup.ofParams params
    if !group.isSafe then throw .illegalParameter
    checkSignature method x randoms key
    return dhe method (some group)
  | srp method credentials _, .srp params => do
    let group := SrpGroup.ofParams params
    if !group.isSafe then throw .illegalParameter
    checkSignature method x randoms key
    return srp method credentials (some group)
  | _, _ => .error .malformedParameters

/-- How long the secret of an RSA exchange is. -/
def rsaSecretLength : Nat := 48

/-- Draws a secret and encrypts it under the server's key.  It starts with the protocol's version. -/
def agreeRsa (key : Option PublicKey) : Drawing Agreement :=
  match key with
  | some (.rsa key) => do
    let version := Wire.encode ProtocolVersion.tls1
    let premaster := version ++ (← Drawing.bytes (rsaSecretLength - version.length))
    if !key.canEncrypt premaster.length then throw (.keyExchange .encryptionFailed)
    return { contribution := ← key.encrypt premaster, premaster }
  | _ => throw (.keyExchange .missingServerKey)

/-- Ends the exchange.  Without accepted parameters nothing is drawn. -/
def agree (k : KeyExchange) (key : Option PublicKey) : Drawing Agreement :=
  match k with
  | rsa => agreeRsa key
  | dhe _ (some group) => group.agree
  | srp _ credentials (some group) => group.agree credentials
  | _ => throw (.keyExchange .malformedParameters)

end KeyExchange

end TlsClient
