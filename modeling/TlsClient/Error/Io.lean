import TlsClient.Text.Notation

/-!
# Failures of a transport

What a read or a write can fail with: a kind, and a text that says more or just repeats the kind.
-/

namespace TlsClient

/-- The kinds of failures of a read or a write. -/
inductive IoErrorKind where
  | brokenPipe
  | connectionReset
  | connectionAborted
  | wouldBlock
  | interrupted
  | timedOut
  | unexpectedEof
  | notConnected
  | other
  | invalidData
  | permissionDenied
  | addrInUse
  deriving DecidableEq, Repr

namespace IoErrorKind

/-- All kinds. -/
def all : List IoErrorKind :=
  [brokenPipe, connectionReset, connectionAborted, wouldBlock, interrupted, timedOut,
    unexpectedEof, notConnected, other, invalidData, permissionDenied, addrInUse]

instance : Describe IoErrorKind where
  describe
    | brokenPipe => "BrokenPipe"
    | connectionReset => "ConnectionReset"
    | connectionAborted => "ConnectionAborted"
    | wouldBlock => "WouldBlock"
    | interrupted => "Interrupted"
    | timedOut => "TimedOut"
    | unexpectedEof => "UnexpectedEof"
    | notConnected => "NotConnected"
    | other => "Other"
    | invalidData => "InvalidData"
    | permissionDenied => "PermissionDenied"
    | addrInUse => "AddrInUse"

/-- The text of a failure of which only the kind is known. -/
def text : IoErrorKind → String
  | brokenPipe => "broken pipe"
  | connectionReset => "connection reset"
  | connectionAborted => "connection aborted"
  | wouldBlock => "operation would block"
  | interrupted => "operation interrupted"
  | timedOut => "timed out"
  | unexpectedEof => "unexpected end of file"
  | notConnected => "not connected"
  | other => "other error"
  | invalidData => "invalid data"
  | permissionDenied => "permission denied"
  | addrInUse => "address in use"

/-- The kind with a name. -/
def ofName? (name : String) : Option IoErrorKind := all.find? fun k => describe k == name

/-- Whether the operation may simply be tried again later. -/
def isTransient (k : IoErrorKind) : Bool := k == wouldBlock || k == interrupted

end IoErrorKind

/-- A failure of a read or a write. -/
structure IoError where
  kind : IoErrorKind
  text : String
  deriving DecidableEq, Repr

/-- The failure of a kind about which nothing more is known. -/
def IoErrorKind.failure (k : IoErrorKind) : IoError := ⟨k, k.text⟩

end TlsClient
