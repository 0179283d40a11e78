import TlsClient.Error.Io
import TlsClient.Bytes

/-!
# Byte queues

A first-in first-out queue of bytes that remembers how they were put in: it is a list of chunks,
none of them empty.  Bytes leave it one chunk at a time, by count, or by a write that takes some of
the first chunks.
-/

namespace TlsClient

/-- A queue of bytes in chunks. -/
structure ByteQueue where
  chunks : List Bytes := []
  deriving DecidableEq, Repr

namespace ByteQueue

def empty : ByteQueue := {}

def isEmpty (q : ByteQueue) : Bool := q.chunks.isEmpty

/-- All bytes, the first to leave in front. -/
def toBytes (q : ByteQueue) : Bytes := q.chunks.flatten

/-- How many bytes are stored. -/
def length (q : ByteQueue) : Nat := q.chunks.foldr (fun c n => c.length + n) 0

/-- Adds a chunk; an empty one leaves no trace. -/
def push (q : ByteQueue) (bs : Bytes) : ByteQueue :=
  if bs.isEmpty then q else { chunks := q.chunks ++ [bs] }

/-- The first chunk. -/
def pop? (q : ByteQueue) : Option (Bytes × ByteQueue) :=
  match q.chunks with
  | [] => none
  | c :: cs => some (c, { chunks := cs })

/-- Drops bytes from the front of a list of chunks. -/
def dropChunks : (n : Nat) → List Bytes → List Bytes
  | _, [] => []
  | n, c :: cs => if n < c.length then c.drop n :: cs else dropChunks (n - c.length) cs

/-- Drops the first `n` bytes. -/
def drop (q : ByteQueue) (n : Nat) : ByteQueue := { chunks := dropChunks n q.chunks }

/-- The first bytes of a list of chunks. -/
def takeChunks : (n : Nat) → List Bytes → Bytes
  | _, [] => []
  | 0, _ => []
  | n, c :: cs => c.take n ++ takeChunks (n - c.length) cs

/-- Takes out `n` bytes, or all if there are fewer. -/
def read (q : ByteQueue) (n : Nat) : Bytes × ByteQueue := (takeChunks n q.chunks, q.drop n)

/-- How many chunks one write offers at most. -/
def maxOffer : Nat := 64

/-- The chunks that a write offers. -/
def offer (q : ByteQueue) : List Bytes := q.chunks.take maxOffer

end ByteQueue

end TlsClient
