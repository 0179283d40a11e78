import TlsClient.Cipher.Protection
import TlsClient.Handshake.Hello
import TlsClient.Prf

/-!
# The secrets of a connection

The premaster secret and the two hello randoms give the master secret, and this gives the keys of
both directions and the contents of both Finished messages.
-/

namespace TlsClient

/-- The randoms of the two hellos. -/
structure Randoms where
  client : HelloRandom
  server : HelloRandom
  deriving DecidableEq, Repr

/-- The master secret of a connection, and what it was made for. -/
structure Secrets where
  randoms : Randoms
  suite : Suite
  master : Bytes
  deriving DecidableEq, Repr

/-- The keys of both directions. -/
structure KeyBlock where
  clientMac : Bytes
  serverMac : Bytes
  clientKey : Bytes
  serverKey : Bytes
  clientIv : Bytes
  serverIv : Bytes
  deriving DecidableEq, Repr

namespace Secrets

def masterLength : Nat := 48

def verifyLength : Nat := 12

/-- The secrets that follow from a premaster secret. -/
def ofPremaster (premaster : Bytes) (randoms : Randoms) (suite : Suite) : Secrets where
  randoms := randoms
  suite := suite
  master :=
    prf premaster (Bytes.ofString "master secret") (randoms.client.bytes ++ randoms.server.bytes)
      masterLength

/-- The key material, cut up: for each kind of key, the client's before the server's. -/
def keyBlock (s : Secrets) : KeyBlock :=
  let n := s.suite.bulk.keyLength
  let m := s.suite.bulk.blockLength
  let block :=
    prf s.master (Bytes.ofString "key expansion") (s.randoms.server.bytes ++ s.randoms.client.bytes)
      s.suite.keyBlockLength
  let piece (start length : Nat) : Bytes := (block.drop start).take length
  { clientMac := piece 0 macLength
    serverMac := piece macLength macLength
    clientKey := piece (2 * macLength) n
    serverKey := piece (2 * macLength + n) n
    clientIv := piece (2 * macLength + 2 * n) m
    serverIv := piece (2 * macLength + 2 * n + m) m }

/-- What protects the records that the client sends. -/
def sending (s : Secrets) : Except TlsError Protection :=
  let k := s.keyBlock
  Protection.ofKeys s.suite.bulk k.clientMac k.clientKey k.clientIv

/-- What protects the records that the client receives. -/
def receiving (s : Secrets) : Except TlsError Protection :=
  let k := s.keyBlock
  Protection.ofKeys s.suite.bulk k.serverMac k.serverKey k.serverIv

/-- The content of the client's Finished for the digest of a transcript. -/
def clientVerify (s : Secrets) (digest : Bytes) : Bytes :=
  prf s.master (Bytes.ofString "client finished") digest verifyLength

/-- The content of the server's Finished for the digest of a transcript. -/
def serverVerify (s : Secrets) (digest : Bytes) : Bytes :=
  prf s.master (Bytes.ofString "server finished") digest verifyLength

end Secrets

end TlsClient
