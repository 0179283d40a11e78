import TlsClient.Hash.Hmac
import TlsClient.Record.Message

/-!
# Transcripts of a handshake

Both sides prove at the end of a handshake that they saw the same messages.  A transcript is the
bytes of handshake messages, in order, whoever sent them; what is proved is the MD5 hash of these
bytes followed by their SHA-1 hash.  A client keeps three of them, which are fed together and differ
in how far they go.
-/

namespace TlsClient

/-- The transcripts of a handshake. -/
structure Transcript where
  /-- What a client certificate is proved over, until it is taken. -/
  verify : Option Bytes := some []
  /-- What the client's Finished is over. -/
  client : Bytes := []
  /-- What the server's Finished is over. -/
  server : Bytes := []
  deriving DecidableEq, Repr

namespace Transcript

/-- The two hashes of a byte string, MD5 first. -/
def digest (bs : Bytes) : Bytes := Hash.Md5.hash bs ++ Hash.Sha1.hash bs

@[simp] theorem length_digest (bs : Bytes) : (digest bs).length = 36 := by simp [digest]

/-- The bytes that a message adds: only handshake messages count. -/
def contribution (m : Message) : Bytes :=
  match m.body with
  | .handshake _ encoded => encoded
  | _ => []

/-- Adds a message to every transcript that is not taken. -/
def add (t : Transcript) (m : Message) : Transcript where
  verify := t.verify.map (· ++ contribution m)
  client := t.client ++ contribution m
  server := t.server ++ contribution m

/-- All that was added. -/
def bytes (t : Transcript) : Bytes := t.client

/-- The bytes that a client certificate is proved over.  They are given out once. -/
def takeVerify (t : Transcript) : Option Bytes × Transcript := (t.verify, { t with verify := none })

end Transcript

end TlsClient
