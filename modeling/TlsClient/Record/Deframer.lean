import TlsClient.Error.Basic
import TlsClient.Record.Basic

/-!
# Cutting a byte stream into records

A deframer keeps the bytes that have arrived and not yet made up a record.  Its buffer holds exactly
one record of the greatest length, so a full buffer always has a record to give, or an error.  After
a header that cannot be right there is no telling where the next record starts, so nothing is given
any more.
-/

namespace TlsClient

/-- The bytes that have arrived and not been given out as records. -/
structure Deframer where
  buffer : Bytes := []
  desynced : Bool := false
  deriving DecidableEq, Repr

namespace Deframer

def isFull (d : Deframer) : Bool := d.buffer.length == Record.maxLength

/-- How many bytes fit. -/
def room (d : Deframer) : Nat := Record.maxLength - d.buffer.length

/-- Adds bytes, of which only as many as fit are taken. -/
def push (d : Deframer) (bs : Bytes) : Deframer :=
  { d with buffer := d.buffer ++ bs.take d.room }

/-- What a read into a full buffer fails with. -/
def fullError : IoError := ⟨.other, "message buffer full"⟩

/-- The first record, if it has arrived as a whole. -/
def pop (d : Deframer) : Except TlsError (Option Record) × Deframer :=
  if d.desynced then (.error (.malformed .tooShort), d)
  else
    match Record.decode d.buffer with
    | .ok (r, rest) => (.ok (some r), { d with buffer := rest })
    | .error .tooShortForHeader => (.ok none, d)
    | .error .tooShortForLength => (.ok none, d)
    | .error .tooLarge => (.error .oversizedRecord, { d with desynced := true })
    | .error .unknownVersion => (.error (.malformed .unknownVersion), { d with desynced := true })

end Deframer

end TlsClient
