import TlsClient.Cipher.Protection

/-!
# The record layer

Each direction of a connection starts without protection, is given keys, and starts to use them when
the key change is signalled.  Records are numbered from zero from then on.  The numbers do not wrap:
a direction is used up a little before they would.
-/

namespace TlsClient

/-- How far the protection of one direction has come. -/
inductive Phase where
  | none
  | prepared
  | active
  deriving DecidableEq, Repr

/-- One direction of a connection.  Before keys are given there is nothing to protect with. -/
structure Direction where
  protection : Option Protection := none
  seq : UInt64 := 0
  phase : Phase := .none
  deriving DecidableEq, Repr

namespace Direction

/-- From this number on nothing is protected any more. -/
def hardLimit : UInt64 := 0xfffffffffffffffe

/-- At this number the connection should be closed. -/
def softLimit : UInt64 := 0xffffffffffff0000

/-- Gives the direction its keys. -/
def prepare (p : Protection) : Direction := { protection := some p, seq := 0, phase := .prepared }

/-- Starts to use the keys. -/
def start (d : Direction) : Direction := { d with phase := .active }

def isActive (d : Direction) : Bool := d.phase == .active

def exhausted (d : Direction) : Bool := hardLimit ≤ d.seq

/-- Protects a record if the direction is active.  The number is used even if that fails. -/
def protect (d : Direction) (r : Record) : Except TlsError Record × Direction :=
  if !d.isActive then (.ok r, d)
  else if d.exhausted then (.error .cannotEncrypt, d)
  else
    let (result, protection) := Protection.protect? d.protection d.seq r
    (result, { d with protection, seq := d.seq + 1 })

/-- Opens a record if the direction is active.  The number is used only if that succeeds. -/
def unprotect (d : Direction) (r : Record) : Except TlsError Record × Direction :=
  if !d.isActive then (.ok r, d)
  else if d.exhausted then (.error .cannotDecrypt, d)
  else
    let (result, protection) := Protection.unprotect? d.protection d.seq r
    (result, { d with protection, seq := if result.isOk then d.seq + 1 else d.seq })

end Direction

/-- Both directions. -/
structure RecordLayer where
  sending : Direction := {}
  receiving : Direction := {}
  deriving DecidableEq, Repr

namespace RecordLayer

/-- Whether sent records are protected. -/
def isEncrypting (l : RecordLayer) : Bool := l.sending.isActive

/-- Whether the numbers are about to run out. -/
def wantsClose (l : RecordLayer) : Bool := l.sending.seq == Direction.softLimit

/-- Whether the numbers have run out. -/
def exhausted (l : RecordLayer) : Bool := l.sending.exhausted

def protect (l : RecordLayer) (r : Record) : Except TlsError Record × RecordLayer :=
  let (result, sending) := l.sending.protect r
  (result, { l with sending })

def unprotect (l : RecordLayer) (r : Record) : Except TlsError Record × RecordLayer :=
  let (result, receiving) := l.receiving.unprotect r
  (result, { l with receiving })

end RecordLayer

end TlsClient
