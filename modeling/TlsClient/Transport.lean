import TlsClient.Bytes
import TlsClient.Error.Io

/-!
# Transports

A transport as far as one run sees it: what each read gives, how much each write takes, and what was
written.  Any byte stream with its delays and failures is of this form, seen from one of its ends.
-/

namespace TlsClient

/-- What a transport has for its readers. -/
inductive Delivery where
  /-- Bytes; one read takes no more than these. -/
  | data (bs : Bytes)
  /-- One read fails. -/
  | failure (kind : IoErrorKind)
  deriving DecidableEq, Repr

/-- What a transport does with one write. -/
inductive Acceptance where
  /-- Takes so many bytes at most. -/
  | upTo (n : Nat)
  | failure (kind : IoErrorKind)
  deriving DecidableEq, Repr

/-- A transport. -/
structure Transport where
  deliveries : List Delivery := []
  /-- How reads fail after the last delivery; if they do not, the stream has ended. -/
  atEnd : Option IoErrorKind := none
  /-- What is done with writes; after the last of these everything is taken. -/
  acceptances : List Acceptance := []
  sent : Bytes := []
  flushes : Nat := 0
  deriving DecidableEq, Repr

namespace Transport

/-- The first bytes that are delivered, at most `n` of them, or the failure in their place. -/
def receive (atEnd : Option IoErrorKind) (n : Nat) :
    List Delivery → Except IoError Bytes × List Delivery
  | [] =>
    match atEnd with
    | none => (.ok [], [])
    | some kind => (.error kind.failure, [])
  | .failure kind :: rest => (.error kind.failure, rest)
  | .data [] :: rest => receive atEnd n rest
  | .data (b :: bs) :: rest => (.ok ((b :: bs).take n), .data ((b :: bs).drop n) :: rest)

/-- Reads at most `n` bytes; none mean that the stream has ended. -/
def read (t : Transport) (n : Nat) : Except IoError Bytes × Transport :=
  let (result, deliveries) := receive t.atEnd n t.deliveries
  (result, { t with deliveries })

/-- Writes some pieces as one: how many bytes were taken. -/
def write (t : Transport) (pieces : List Bytes) : Except IoError Nat × Transport :=
  let take (n : Nat) (acceptances : List Acceptance) : Except IoError Nat × Transport :=
    let bs := pieces.flatten.take n
    (.ok bs.length, { t with acceptances, sent := t.sent ++ bs })
  match t.acceptances with
  | [] => take pieces.flatten.length []
  | .upTo n :: rest => take n rest
  | .failure kind :: rest => (.error kind.failure, { t with acceptances := rest })

def flush (t : Transport) : Transport := { t with flushes := t.flushes + 1 }

/-- How many bytes are still to be read. -/
def readable (t : Transport) : Nat :=
  t.deliveries.foldr (fun d n => match d with
    | .data bs => bs.length + n
    | .failure _ => n) 0

end Transport

end TlsClient
