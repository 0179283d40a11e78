import TlsClient.Bytes

/-!
# Triple DES

DES works on blocks of 64 bits, cut into halves after an initial permutation.  In each of 16 rounds
one half, mixed with a round key, is added to the other, so that a round can be undone whatever the
mixing does.  Triple DES encrypts, decrypts and encrypts again, with three keys.
-/

namespace TlsClient.Des

/-- A row of bits. -/
abbrev Bits := Array Bool

/-- The bits of a byte string, highest first. -/
def Bits.ofBytes (bs : Bytes) : Bits :=
  (bs.flatMap fun b => (List.range 8).map fun i => b.toNat.testBit (7 - i)).toArray

/-- The number that bits spell, highest first. -/
def Bits.toNat (bits : Bits) : Nat := bits.foldl (fun n b => 2 * n + b.toNat) 0

/-- The eight bytes that 64 bits spell. -/
def Bits.toBytes (bits : Bits) : Bytes := Bytes.ofNat 8 (Bits.toNat bits)

/-- Picks the bits that a table names. -/
def pick (table : Array Nat) (bits : Bits) : Bits := table.map fun i => bits.getD i false

/-- Bitwise exclusive or. -/
def add (x y : Bits) : Bits := x.zipWith Bool.xor y

/-- The permutation of a block before the first round. -/
def initial : Array Nat :=
  #[57, 49, 41, 33, 25, 17, 9, 1, 59, 51, 43, 35, 27, 19, 11, 3,
    61, 53, 45, 37, 29, 21, 13, 5, 63, 55, 47, 39, 31, 23, 15, 7,
    56, 48, 40, 32, 24, 16, 8, 0, 58, 50, 42, 34, 26, 18, 10, 2,
    60, 52, 44, 36, 28, 20, 12, 4, 62, 54, 46, 38, 30, 22, 14, 6]

/-- The permutation of a block after the last round, the inverse of `initial`. -/
def final : Array Nat :=
  #[39, 7, 47, 15, 55, 23, 63, 31, 38, 6, 46, 14, 54, 22, 62, 30,
    37, 5, 45, 13, 53, 21, 61, 29, 36, 4, 44, 12, 52, 20, 60, 28,
    35, 3, 43, 11, 51, 19, 59, 27, 34, 2, 42, 10, 50, 18, 58, 26,
    33, 1, 41, 9, 49, 17, 57, 25, 32, 0, 40, 8, 48, 16, 56, 24]

/-- Spreads a half to 48 bits. -/
def expansion : Array Nat :=
  #[31, 0, 1, 2, 3, 4, 3, 4, 5, 6, 7, 8, 7, 8, 9, 10,
    11, 12, 11, 12, 13, 14, 15, 16, 15, 16, 17, 18, 19, 20, 19, 20,
    21, 22, 23, 24, 23, 24, 25, 26, 27, 28, 27, 28, 29, 30, 31, 0]

/-- The permutation of what the substitutions give. -/
def spread : Array Nat :=
  #[15, 6, 19, 20, 28, 11, 27, 16, 0, 14, 22, 25, 4, 17, 30, 9,
    1, 7, 23, 13, 31, 26, 2, 8, 18, 12, 29, 5, 21, 10, 3, 24]

/-- The bits of a key that count, in two halves. -/
def keyChoice : Array Nat :=
  #[56, 48, 40, 32, 24, 16, 8, 0, 57, 49, 41, 33, 25, 17,
    9, 1, 58, 50, 42, 34, 26, 18, 10, 2, 59, 51, 43, 35,
    62, 54, 46, 38, 30, 22, 14, 6, 61, 53, 45, 37, 29, 21,
    13, 5, 60, 52, 44, 36, 28, 20, 12, 4, 27, 19, 11, 3]

/-- The bits of a turned key that make a round key. -/
def roundChoice : Array Nat :=
  #[13, 16, 10, 23, 0, 4, 2, 27, 14, 5, 20, 9,
    22, 18, 11, 3, 25, 7, 15, 6, 26, 19, 12, 1,
    40, 51, 30, 36, 46, 54, 29, 39, 50, 44, 32, 47,
    43, 48, 38, 55, 33, 52, 45, 41, 49, 35, 28, 31]

/-- By how many places both halves of the key turn before each round. -/
def turns : List Nat := [1, 1, 2, 2, 2, 2, 2, 2, 1, 2, 2, 2, 2, 2, 2, 1]

/-- The substitutions of six bits by four, each with its rows one after another. -/
def substitutions : Array (Array Nat) :=
  #[#[14, 4, 13, 1, 2, 15, 11, 8, 3, 10, 6, 12, 5, 9, 0, 7,
      0, 15, 7, 4, 14, 2, 13, 1, 10, 6, 12, 11, 9, 5, 3, 8,
      4, 1, 14, 8, 13, 6, 2, 11, 15, 12, 9, 7, 3, 10, 5, 0,
      15, 12, 8, 2, 4, 9, 1, 7, 5, 11, 3, 14, 10, 0, 6, 13],
    #[15, 1, 8, 14, 6, 11, 3, 4, 9, 7, 2, 13, 12, 0, 5, 10,
      3, 13, 4, 7, 15, 2, 8, 14, 12, 0, 1, 10, 6, 9, 11, 5,
      0, 14, 7, 11, 10, 4, 13, 1, 5, 8, 12, 6, 9, 3, 2, 15,
      13, 8, 10, 1, 3, 15, 4, 2, 11, 6, 7, 12, 0, 5, 14, 9],
    #[10, 0, 9, 14, 6, 3, 15, 5, 1, 13, 12, 7, 11, 4, 2, 8,
      13, 7, 0, 9, 3, 4, 6, 10, 2, 8, 5, 14, 12, 11, 15, 1,
      13, 6, 4, 9, 8, 15, 3, 0, 11, 1, 2, 12, 5, 10, 14, 7,
      1, 10, 13, 0, 6, 9, 8, 7, 4, 15, 14, 3, 11, 5, 2, 12],
    #[7, 13, 14, 3, 0, 6, 9, 10, 1, 2, 8, 5, 11, 12, 4, 15,
      13, 8, 11, 5, 6, 15, 0, 3, 4, 7, 2, 12, 1, 10, 14, 9,
      10, 6, 9, 0, 12, 11, 7, 13, 15, 1, 3, 14, 5, 2, 8, 4,
      3, 15, 0, 6, 10, 1, 13, 8, 9, 4, 5, 11, 12, 7, 2, 14],
    #[2, 12, 4, 1, 7, 10, 11, 6, 8, 5, 3, 15, 13, 0, 14, 9,
      14, 11, 2, 12, 4, 7, 13, 1, 5, 0, 15, 10, 3, 9, 8, 6,
      4, 2, 1, 11, 10, 13, 7, 8, 15, 9, 12, 5, 6, 3, 0, 14,
      11, 8, 12, 7, 1, 14, 2, 13, 6, 15, 0, 9, 10, 4, 5, 3],
    #[12, 1, 10, 15, 9, 2, 6, 8, 0, 13, 3, 4, 14, 7, 5, 11,
      10, 15, 4, 2, 7, 12, 9, 5, 6, 1, 13, 14, 0, 11, 3, 8,
      9, 14, 15, 5, 2, 8, 12, 3, 7, 0, 4, 10, 1, 13, 11, 6,
      4, 3, 2, 12, 9, 5, 15, 10, 11, 14, 1, 7, 6, 0, 8, 13],
    #[4, 11, 2, 14, 15, 0, 8, 13, 3, 12, 9, 7, 5, 10, 6, 1,
      13, 0, 11, 7, 4, 9, 1, 10, 14, 3, 5, 12, 2, 15, 8, 6,
      1, 4, 11, 13, 12, 3, 7, 14, 10, 15, 6, 8, 0, 5, 9, 2,
      6, 11, 13, 8, 1, 4, 10, 7, 9, 5, 0, 15, 14, 2, 3, 12],
    #[13, 2, 8, 4, 6, 15, 11, 1, 10, 9, 3, 14, 5, 0, 12, 7,
      1, 15, 13, 8, 10, 3, 7, 4, 12, 5, 6, 11, 0, 14, 9, 2,
      7, 11, 4, 1, 9, 12, 14, 2, 0, 6, 10, 13, 15, 3, 5, 8,
      2, 1, 14, 7, 4, 10, 8, 13, 15, 12, 9, 0, 3, 5, 6, 11]]

/-- Substitution `i` of six bits: the outer two choose the row, the inner four the column. -/
def substitute (i : Nat) (six : Bits) : Bits :=
  let row := Bits.toNat #[six.getD 0 false, six.getD 5 false]
  let n := (substitutions.getD i #[]).getD (16 * row + Bits.toNat (six.extract 1 5)) 0
  #[n.testBit 3, n.testBit 2, n.testBit 1, n.testBit 0]

/-- Mixes a half with a round key. -/
def mix (key half : Bits) : Bits :=
  let x := add (pick expansion half) key
  pick spread ((Array.range 8).flatMap fun i => substitute i (x.extract (6 * i) (6 * i + 6)))

/-- A block in two halves. -/
structure Halves where
  left : Bits
  right : Bits
  deriving DecidableEq, Repr

namespace Halves

def ofBits (bits : Bits) : Halves := ⟨bits.extract 0 32, bits.extract 32 64⟩

def toBits (h : Halves) : Bits := h.left ++ h.right

def swap (h : Halves) : Halves := ⟨h.right, h.left⟩

/-- A round: the right half, mixed with the key, is added to the left one, and they change places. -/
def round (h : Halves) (key : Bits) : Halves := ⟨h.right, add h.left (mix key h.right)⟩

/-- Undoes `round`. -/
def unround (key : Bits) (h : Halves) : Halves := ⟨add h.right (mix key h.left), h.left⟩

end Halves

/-- The round keys of a key of eight bytes. -/
def schedule (key : Bytes) : List Bits :=
  let bits := pick keyChoice (Bits.ofBytes key)
  let turn (half : Bits) (n : Nat) : Bits := half.extract n 28 ++ half.extract 0 n
  (turns.foldl
    (fun (keys, l, r) n =>
      let l := turn l n
      let r := turn r n
      (keys ++ [pick roundChoice (l ++ r)], l, r))
    (([] : List Bits), bits.extract 0 28, bits.extract 28 56)).1

def encrypt (keys : List Bits) (block : Bytes) : Bytes :=
  let h := Halves.ofBits (pick initial (Bits.ofBytes block))
  Bits.toBytes (pick final (keys.foldl Halves.round h).swap.toBits)

def decrypt (keys : List Bits) (block : Bytes) : Bytes :=
  let h := Halves.ofBits (pick initial (Bits.ofBytes block))
  Bits.toBytes (pick final (keys.foldr Halves.unround h.swap).toBits)

end TlsClient.Des
