import TlsClient.Hash.Blocks

/-! # MD5 -/

namespace TlsClient.Hash.Md5

/-- The chaining value: four words. -/
structure State where
  a : UInt32
  b : UInt32
  c : UInt32
  d : UInt32
  deriving DecidableEq, Repr

def State.start : State := ⟨0x67452301, 0xefcdab89, 0x98badcfe, 0x10325476⟩

def State.add (s t : State) : State := ⟨s.a + t.a, s.b + t.b, s.c + t.c, s.d + t.d⟩

/-- The constants of the rounds: the digits of the sines of 1, 2, … -/
def constants : Array UInt32 :=
  #[0xd76aa478, 0xe8c7b756, 0x242070db, 0xc1bdceee, 0xf57c0faf, 0x4787c62a,
    0xa8304613, 0xfd469501, 0x698098d8, 0x8b44f7af, 0xffff5bb1, 0x895cd7be,
    0x6b901122, 0xfd987193, 0xa679438e, 0x49b40821, 0xf61e2562, 0xc040b340,
    0x265e5a51, 0xe9b6c7aa, 0xd62f105d, 0x02441453, 0xd8a1e681, 0xe7d3fbc8,
    0x21e1cde6, 0xc33707d6, 0xf4d50d87, 0x455a14ed, 0xa9e3e905, 0xfcefa3f8,
    0x676f02d9, 0x8d2a4c8a, 0xfffa3942, 0x8771f681, 0x6d9d6122, 0xfde5380c,
    0xa4beea44, 0x4bdecfa9, 0xf6bb4b60, 0xbebfbc70, 0x289b7ec6, 0xeaa127fa,
    0xd4ef3085, 0x04881d05, 0xd9d4d039, 0xe6db99e5, 0x1fa27cf8, 0xc4ac5665,
    0xf4292244, 0x432aff97, 0xab9423a7, 0xfc93a039, 0x655b59c3, 0x8f0ccc92,
    0xffeff47d, 0x85845dd1, 0x6fa87e4f, 0xfe2ce6e0, 0xa3014314, 0x4e0811a1,
    0xf7537e82, 0xbd3af235, 0x2ad7d2bb, 0xeb86d391]

/-- By how much round `t` rotates. -/
def shift (t : Nat) : Nat :=
  (#[#[7, 12, 17, 22], #[5, 9, 14, 20], #[4, 11, 16, 23], #[6, 10, 15, 21]].getD (t / 16) #[]).getD
    (t % 4) 0

/-- Which word of the block round `t` uses. -/
def wordIndex (t : Nat) : Nat :=
  match t / 16 with
  | 0 => t % 16
  | 1 => (5 * t + 1) % 16
  | 2 => (3 * t + 5) % 16
  | _ => 7 * t % 16

/-- The mixing function of round `t`. -/
def mix (t : Nat) (b c d : UInt32) : UInt32 :=
  match t / 16 with
  | 0 => (b &&& c) ||| (~~~b &&& d)
  | 1 => (d &&& b) ||| (~~~d &&& c)
  | 2 => b ^^^ c ^^^ d
  | _ => c ^^^ (b ||| ~~~d)

/-- One round on the words of a block. -/
def round (w : Array UInt32) (s : State) (t : Nat) : State :=
  let x := s.a + mix t s.b s.c s.d + constants.getD t 0 + w.getD (wordIndex t) 0
  ⟨s.d, s.b + rotate x (shift t), s.b, s.c⟩

/-- A number from bytes of which the first is the lowest. -/
def littleEndian (bs : Bytes) : Nat := Bytes.toNat bs.reverse

/-- Takes one block into the chaining value. -/
def compress (s : State) (block : Bytes) : State :=
  s.add ((List.range 64).foldl (round (words littleEndian block)) s)

def State.toBytes (s : State) : Bytes :=
  [s.a, s.b, s.c, s.d].flatMap fun w => (Bytes.ofNat 4 w.toNat).reverse

/-- The MD5 hash of a message. -/
def hash (message : Bytes) : Bytes :=
  ((Bytes.chunks blockLength (pad (fun n => (Bytes.ofNat 8 n).reverse) message)).foldl compress
    .start).toBytes

@[simp] theorem length_hash (message : Bytes) : (hash message).length = 16 := by
  simp [hash, State.toBytes]

end TlsClient.Hash.Md5
