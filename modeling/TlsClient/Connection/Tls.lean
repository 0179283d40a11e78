import TlsClient.Connection.Basic
import TlsClient.Transport

/-!
# The transport's side of a connection

Bytes are moved between a connection and its transport.  A failure of the transport that will not
pass ends the connection; nothing that waits to be written can be sent then.
-/

namespace TlsClient.Connection

/-- Ends the connection because its transport failed, unless the failure may pass.  An earlier error
stays. -/
def transportFailed (c : Connection) (e : IoError) : Connection :=
  if e.kind.isTransient then c
  else
    match c.stage with
    | .ok _ =>
      { c with
        session := (c.session.note (.transportFailed e)).loseTransport
        stage := .error (.transport e) }
    | .error _ => { c with session := c.session.loseTransport }

/-- Reads from the transport once.  After a close notification nothing is read any more. -/
def readTls (c : Connection) (t : Transport) : Except IoError Nat × Connection × Transport :=
  if c.session.closeReceived then (.ok 0, c, t)
  else if c.deframer.isFull then (.error Deframer.fullError, c, t)
  else
    match t.read c.deframer.room with
    | (.ok bs, t) => (.ok bs.length, { c with deframer := c.deframer.push bs }, t)
    | (.error e, t) => (.error e, c.transportFailed e, t)

/-- Writes to the transport once, if something waits to be written. -/
def writeTls (c : Connection) (t : Transport) : Except IoError Nat × Connection × Transport :=
  if !c.wantsWrite then (.ok 0, c, t)
  else
    match t.write c.session.outgoing.offer with
    | (.ok n, t) =>
      (.ok n, { c with session := { c.session with outgoing := c.session.outgoing.drop n } }, t)
    | (.error e, t) => (.error e, c.transportFailed e, t)

/-! ## Feeding -/

/-- Why feeding stopped. -/
inductive FeedError where
  | transport (e : IoError)
  | protocol (e : TlsError)
  deriving DecidableEq, Repr

/-- What feeding came to: how many bytes were taken in, and what the last call said. -/
structure Fed where
  taken : Nat := 0
  result : Option (Except FeedError IoState) := none

/-- Reads a piece and takes in its records, in at most `fuel` reads: how many bytes were read before
everything was taken in for the last time. -/
def feedPiece : (fuel : Nat) → Connection → Bytes → Fed × Connection
  | 0, c, _ => ({}, c)
  | fuel + 1, c, bs =>
    match c.readTls { deliveries := [.data bs] } with
    | (.error e, c, _) => ({ result := some (.error (.transport e)) }, c)
    | (.ok n, c, _) =>
      match c.process with
      | (.error e, c) => ({ taken := n, result := some (.error (.protocol e)) }, c)
      | (.ok io, c) =>
        if n = 0 ∨ bs.length ≤ n then ({ taken := n, result := some (.ok io) }, c)
        else
          let (fed, c) := feedPiece fuel c (bs.drop n)
          ({ fed with taken := n + fed.taken }, c)

/-- Feeds pieces one after another, up to the first error. -/
def feed (c : Connection) : List Bytes → Fed × Connection
  | [] => ({}, c)
  | bs :: rest =>
    match feedPiece (bs.length + 1) c bs with
    | (⟨n, some (.error e)⟩, c) => (⟨n, some (.error e)⟩, c)
    | (⟨n, result⟩, c) =>
      let (fed, c) := c.feed rest
      ({ taken := n + fed.taken, result := fed.result <|> result }, c)

end TlsClient.Connection
