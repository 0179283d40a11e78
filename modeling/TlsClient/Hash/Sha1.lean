import TlsClient.Hash.Blocks

/-! # SHA-1 -/

namespace TlsClient.Hash.Sha1

/-- The chaining value: five words. -/
structure State where
  a : UInt32
  b : UInt32
  c : UInt32
  d : UInt32
  e : UInt32
  deriving DecidableEq, Repr

def State.start : State := ⟨0x67452301, 0xefcdab89, 0x98badcfe, 0x10325476, 0xc3d2e1f0⟩

def State.add (s t : State) : State := ⟨s.a + t.a, s.b + t.b, s.c + t.c, s.d + t.d, s.e + t.e⟩

/-- The 80 words that the rounds use: those of the block, and then each one from four before it. -/
def schedule (block : Array UInt32) : Array UInt32 :=
  (List.range 64).foldl
    (fun w i =>
      w.push (rotate (w.getD (i + 13) 0 ^^^ w.getD (i + 8) 0 ^^^ w.getD (i + 2) 0 ^^^ w.getD i 0) 1))
    block

/-- The mixing function of round `t`. -/
def mix (t : Nat) (b c d : UInt32) : UInt32 :=
  if t < 20 then (b &&& c) ||| (~~~b &&& d)
  else if t < 40 then b ^^^ c ^^^ d
  else if t < 60 then (b &&& c) ||| (b &&& d) ||| (c &&& d)
  else b ^^^ c ^^^ d

/-- The constant of round `t`. -/
def constant (t : Nat) : UInt32 :=
  if t < 20 then 0x5a827999
  else if t < 40 then 0x6ed9eba1
  else if t < 60 then 0x8f1bbcdc
  else 0xca62c1d6

/-- One round with its word. -/
def round (s : State) (t : Nat) (w : UInt32) : State :=
  ⟨rotate s.a 5 + mix t s.b s.c s.d + s.e + constant t + w, s.a, rotate s.b 30, s.c, s.d⟩

/-- Takes one block into the chaining value. -/
def compress (s : State) (block : Bytes) : State :=
  let w := schedule (words Bytes.toNat block)
  s.add ((List.range 80).foldl (fun s t => round s t (w.getD t 0)) s)

def State.toBytes (s : State) : Bytes :=
  [s.a, s.b, s.c, s.d, s.e].flatMap fun w => Bytes.ofNat 4 w.toNat

/-- The SHA-1 hash of a message. -/
def hash (message : Bytes) : Bytes :=
  ((Bytes.chunks blockLength (pad (Bytes.ofNat 8) message)).foldl compress .start).toBytes

@[simp] theorem length_hash (message : Bytes) : (hash message).length = 20 := by
  simp [hash, State.toBytes]

end TlsClient.Hash.Sha1
