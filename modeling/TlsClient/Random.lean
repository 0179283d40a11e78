import TlsClient.Error.Basic
import TlsClient.Handshake.Hello

/-!
# Randomness

All random bytes of a connection come from one stream.  Drawing takes the next bytes of the stream,
or fails and takes nothing if the stream ends before.  For runs that can be repeated there is a
stream that follows from a seed.
-/

namespace TlsClient

/-- A stream of random bytes and the place in it. -/
structure RandomSource where
  byte : Nat → UInt8
  position : Nat := 0
  /-- How many bytes the stream has, if it ends. -/
  limit : Option Nat := none

namespace RandomSource

/-- Whether `n` more bytes are there. -/
def holds (s : RandomSource) (n : Nat) : Bool := s.limit.all fun limit => s.position + n ≤ limit

/-- The next `n` bytes. -/
def peek (s : RandomSource) (n : Nat) : Bytes := (List.range n).map fun i => s.byte (s.position + i)

def skip (s : RandomSource) (n : Nat) : RandomSource := { s with position := s.position + n }

@[simp] theorem length_peek (s : RandomSource) (n : Nat) : (s.peek n).length = n := by simp [peek]

/-- Scrambles a word so that neighbours have nothing in common. -/
def scramble (z : UInt64) : UInt64 :=
  let z := (z ^^^ (z >>> 30)) * 0xbf58476d1ce4e5b9
  let z := (z ^^^ (z >>> 27)) * 0x94d049bb133111eb
  z ^^^ (z >>> 31)

/-- A byte of the words that follow from a seed, each of them written big-endian. -/
def seededByte (seed : UInt64) (i : Nat) : UInt8 :=
  let word := scramble (seed + UInt64.ofNat (i / 8 + 1) * 0x9e3779b97f4a7c15)
  UInt8.ofNat (word.toNat >>> (8 * (7 - i % 8)))

/-- Given bytes first, then the bytes that follow from a seed. -/
def seeded (front : Bytes) (seed : UInt64) (limit : Option Nat) : RandomSource where
  byte i := front[i]?.getD (seededByte seed (i - front.length))
  limit := limit

end RandomSource

/-- Computations that draw random bytes and may fail. -/
abbrev Drawing := ExceptT TlsError (StateM RandomSource)

namespace Drawing

/-- Draws `n` bytes. -/
def bytes (n : Nat) : Drawing Bytes := fun s =>
  if s.holds n then (.ok (s.peek n), s.skip n) else (.error .noRandomness, s)

/-- Draws a client's hello random: the time in seconds in four bytes, then 28 random bytes. -/
def helloRandom (time : Nat) : Drawing HelloRandom := do
  return .ofBytes (Bytes.ofNat 4 time ++ (← bytes 28))

end Drawing

end TlsClient
