import TlsClient.KeyExchange.Password
import TlsClient.Text.Utf8
import TlsClient.Verifier

/-!
# Configurations

What a client offers, whom it believes and what it can prove about itself.  A configuration is put
together by a builder and checked once: it offers something, it has a password exactly if a suite
needs one, and a client certificate, if there is one, is not empty.
-/

namespace TlsClient

instance : Describe SrpCredentials :=
  ⟨fun c => Text.openRecord "SrpCredentials" [("identity", Text.quoted (Text.ofUtf8 c.identity))]⟩

/-- A certificate of the client's own, with its key. -/
structure ClientAuth where
  chain : List Certificate
  key : SigningKey
  deriving DecidableEq, Repr

instance : Describe ClientAuth :=
  ⟨fun a => Text.record "ClientCertKey" [("cert", describe a.chain), ("key", describe a.key)]⟩

/-- A checked configuration. -/
structure Config where
  suites : List Suite
  verifier : Verifier
  srp : Option SrpCredentials
  auth : Option ClientAuth
  /-- Whether master secrets are reported, so that traffic can be read later. -/
  logsSecrets : Bool

namespace Config

/-- Whether some suite needs a password. -/
def needsSrp (suites : List Suite) : Bool := suites.any fun s => s.keyExchange.isSrp

def offersSrp (c : Config) : Bool := needsSrp c.suites

instance : Describe Config :=
  ⟨fun c => Text.record "ClientConfig"
    [("cipher_suites", describe c.suites), ("verifier", describe c.verifier),
      ("srp_credentials", describe c.srp), ("client_auth", describe c.auth),
      ("key_log", if c.logsSecrets then "KeyLog" else "NoKeyLog")]⟩

end Config

/-- A configuration that is being put together. -/
structure ConfigBuilder where
  verifier : Verifier
  suites : Option (List Suite) := none
  srp : Option SrpCredentials := none
  auth : Option ClientAuth := none
  logsSecrets : Bool := false

namespace ConfigBuilder

/-- The suites to offer: if none are given, all that can be used. -/
def chosenSuites (b : ConfigBuilder) : List Suite :=
  b.suites.getD (if b.srp.isSome then Suite.all else Suite.withoutSrp)

/-- Checks the configuration. -/
def build (b : ConfigBuilder) : Except ConfigError Config :=
  let suites := b.chosenSuites
  if suites.isEmpty then .error .noCipherSuites
  else if Config.needsSrp suites && b.srp.isNone then .error .srpSuitesWithoutCredentials
  else if !Config.needsSrp suites && b.srp.isSome then .error .srpCredentialsWithoutSuites
  else if b.auth.any fun a => a.chain.isEmpty then .error .emptyClientCertChain
  else
    .ok {
      suites, verifier := b.verifier, srp := b.srp, auth := b.auth, logsSecrets := b.logsSecrets }

end ConfigBuilder

end TlsClient
