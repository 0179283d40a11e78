import TlsClient.Connection.Tls

/-!
# Streams

A connection together with its transport: reading and writing do whatever the connection needs on
the way.  All loops end because each turn uses up bytes of the transport, or what it does with a
write, or something that waits to be written.
-/

namespace TlsClient

/-- A connection and its transport. -/
structure Stream where
  connection : Connection
  transport : Transport

/-- Computations that move bytes between a connection and its transport. -/
abbrev Transfer := ExceptT IoError (StateM Stream)

namespace Transfer

variable {α : Type}

/-- What can be seen of the connection. -/
def ask (f : Connection → α) : Transfer α := fun s => (.ok (f s.connection), s)

/-- Something that the connection does by itself. -/
def act (f : Connection → Except IoError α × Connection) : Transfer α := fun s =>
  let (result, connection) := f s.connection
  (result, { s with connection })

/-- Does something and goes on whether or not it fails. -/
def attempt (x : Transfer α) : Transfer (Except IoError α) := fun s =>
  let (result, s) := x.run s
  (.ok result, s)

def readTls : Transfer Nat := fun s =>
  let (result, connection, transport) := s.connection.readTls s.transport
  (result, { connection, transport })

def writeTls : Transfer Nat := fun s =>
  let (result, connection, transport) := s.connection.writeTls s.transport
  (result, { connection, transport })

def process : Transfer (Except TlsError IoState) := fun s =>
  let (result, connection) := s.connection.process
  (.ok result, { s with connection })

/-- Writes until nothing waits to be written, at most `fuel` times: how many bytes. -/
def writeUpTo : (fuel : Nat) → (written : Nat) → Transfer Nat
  | 0, written => return written
  | fuel + 1, written => do
    if ← ask Connection.wantsWrite then writeUpTo fuel (written + (← writeTls))
    else return written

/-- Writes until nothing waits to be written.  A write whose size the transport does not limit takes
at least one chunk. -/
def writeAll : Transfer Nat := do
  let s ← get
  writeUpTo (s.transport.acceptances.length + s.connection.session.outgoing.chunks.length) 0

/-- Writes, reads and takes in, at most `fuel` times, until the handshake is over; if it was over
before, until something has been moved. -/
def turns (wasHandshaking : Bool) : (fuel : Nat) → (read written : Nat) → Transfer (Nat × Nat)
  | 0, read, written => return (read, written)
  | fuel + 1, read, written => do
    let written := written + (← writeAll)
    if !wasHandshaking && 0 < written then return (read, written)
    let wanted ← ask Connection.wantsRead
    let n ← if wanted then readTls else pure 0
    match ← process with
    | .error e =>
      -- an alert may wait to be written; the error counts, whatever becomes of it
      let _ ← attempt writeTls
      throw ⟨.invalidData, e.text⟩
    | .ok _ =>
      if !wasHandshaking || !(← ask Connection.isHandshaking) then return (read + n, written)
      if wanted && n == 0 then throw IoErrorKind.unexpectedEof.failure
      turns wasHandshaking fuel (read + n) written

/-- Moves what there is to move: how many bytes were read and written. -/
def completeIo : Transfer (Nat × Nat) := do
  let s ← get
  match s.connection.stage with
  | .error (.transport e) => throw ⟨.notConnected, (TlsError.transport e).text⟩
  | _ => turns s.connection.isHandshaking (s.transport.readable + 2) 0 0

/-- Ends the handshake and writes what waits to be written. -/
def completePrior : Transfer Unit := do
  if ← ask Connection.isHandshaking then let _ ← completeIo
  if ← ask Connection.wantsWrite then let _ ← completeIo

/-- Moves bytes until there is plaintext or nothing more comes, at most `fuel` times, and reads up to
`n` bytes of plaintext. -/
def readUpTo (n : Nat) : (fuel : Nat) → Transfer Bytes
  | 0 => act fun c => c.read n
  | fuel + 1 => do
    if !(← ask Connection.wantsRead) then act fun c => c.read n
    else if (← completeIo).1 ≠ 0 then readUpTo n fuel
    else
      match ← process with
      | .ok io => if io.toRead = 0 then return [] else act fun c => c.read n
      | .error _ => act fun c => c.read n

/-- Reads up to `n` bytes of plaintext. -/
def read (n : Nat) : Transfer Bytes := do
  completePrior
  readUpTo n ((← get).transport.readable + 2)

/-- Writes plaintext.  A failure to move it on is left to the next call. -/
def write (bs : Bytes) : Transfer Nat := do
  completePrior
  let n ← act fun c => c.write bs
  let _ ← attempt completeIo
  return n

/-- Writes what waits to be written. -/
def flush : Transfer Unit := do
  completePrior
  if ← ask Connection.wantsWrite then let _ ← completeIo

/-- Tells the server that nothing more will be sent, and writes that out. -/
def close : Transfer Unit := do
  modify fun s => { s with connection := s.connection.close }
  let _ ← writeAll
  modify fun s => { s with transport := s.transport.flush }

end Transfer

/-- A stream whose handshake is over. -/
def Stream.connect (s : Stream) : Except IoError Stream :=
  match Transfer.completePrior.run s with
  | (.ok (), s) => .ok s
  | (.error e, _) => .error e

end TlsClient
