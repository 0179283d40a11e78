import TlsClient.Session.Basic

/-!
# Plaintext of a session

What the user writes is kept back until the handshake is over and then goes out in application data
records.  What the peer wrote is kept until the user reads it.
-/

namespace TlsClient.Session

/-- A record of application data. -/
def dataRecord (bs : Bytes) : Record :=
  { typ := .applicationData, version := .tls1, payload := bs }

/-- Sends data behind an empty record: what it encrypts to, which nobody can foresee, is where the
chain of blocks goes on. -/
def sendData (s : Session) (bs : Bytes) : Session :=
  (dataRecord bs).fragments.foldl sendFragment (s.sendFragment (dataRecord []))

/-- Sends what the user wrote, or keeps it until the handshake is over. -/
def sendPlaintext (s : Session) (bs : Bytes) : Session :=
  if !s.traffic then { s with early := s.early.push bs }
  else if bs.isEmpty then s
  else s.sendData bs

/-- Takes what the user wrote, if the session is open. -/
def write (s : Session) (bs : Bytes) : Except TlsError Nat × Session :=
  if s.status ≠ .opened then (.error .connectionClosed, s)
  else (.ok bs.length, s.sendPlaintext bs)

/-- The handshake is over: what was kept back is sent. -/
def startTraffic (s : Session) : Session :=
  s.early.chunks.foldl sendPlaintext { s with traffic := true, early := {} }

/-- Keeps what the peer wrote. -/
def receiveData (s : Session) (bs : Bytes) : Session :=
  { s with incoming := s.incoming.push bs }

/-- Reads up to `n` bytes of what the peer wrote.  If there are none, the answer tells whether there
will be any: after a close notification the stream has ended, after a failure nothing can come. -/
def read (s : Session) (n : Nat) : Except IoError Bytes × Session :=
  let (bs, incoming) := s.incoming.read n
  let result : Except IoError Bytes :=
    if !bs.isEmpty || n == 0 || s.closeReceived then .ok bs
    else if s.status = .closed then .error TlsError.connectionClosed.toIo
    else .error IoErrorKind.wouldBlock.failure
  (result, { s with incoming })

end TlsClient.Session
