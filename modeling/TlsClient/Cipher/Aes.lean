import TlsClient.Bytes

/-!
# AES

A block is four columns of four bytes.  Encryption is a number of rounds, each of which substitutes
every byte, rotates the rows, mixes the columns and adds a round key; the last round does not mix.
Decryption undoes the rounds from the last to the first.
-/

namespace TlsClient.Aes

/-- What a byte is replaced by. -/
def substitution : Array UInt8 :=
  #[0x63, 0x7c, 0x77, 0x7b, 0xf2, 0x6b, 0x6f, 0xc5, 0x30, 0x01, 0x67, 0x2b, 0xfe, 0xd7, 0xab, 0x76,
    0xca, 0x82, 0xc9, 0x7d, 0xfa, 0x59, 0x47, 0xf0, 0xad, 0xd4, 0xa2, 0xaf, 0x9c, 0xa4, 0x72, 0xc0,
    0xb7, 0xfd, 0x93, 0x26, 0x36, 0x3f, 0xf7, 0xcc, 0x34, 0xa5, 0xe5, 0xf1, 0x71, 0xd8, 0x31, 0x15,
    0x04, 0xc7, 0x23, 0xc3, 0x18, 0x96, 0x05, 0x9a, 0x07, 0x12, 0x80, 0xe2, 0xeb, 0x27, 0xb2, 0x75,
    0x09, 0x83, 0x2c, 0x1a, 0x1b, 0x6e, 0x5a, 0xa0, 0x52, 0x3b, 0xd6, 0xb3, 0x29, 0xe3, 0x2f, 0x84,
    0x53, 0xd1, 0x00, 0xed, 0x20, 0xfc, 0xb1, 0x5b, 0x6a, 0xcb, 0xbe, 0x39, 0x4a, 0x4c, 0x58, 0xcf,
    0xd0, 0xef, 0xaa, 0xfb, 0x43, 0x4d, 0x33, 0x85, 0x45, 0xf9, 0x02, 0x7f, 0x50, 0x3c, 0x9f, 0xa8,
    0x51, 0xa3, 0x40, 0x8f, 0x92, 0x9d, 0x38, 0xf5, 0xbc, 0xb6, 0xda, 0x21, 0x10, 0xff, 0xf3, 0xd2,
    0xcd, 0x0c, 0x13, 0xec, 0x5f, 0x97, 0x44, 0x17, 0xc4, 0xa7, 0x7e, 0x3d, 0x64, 0x5d, 0x19, 0x73,
    0x60, 0x81, 0x4f, 0xdc, 0x22, 0x2a, 0x90, 0x88, 0x46, 0xee, 0xb8, 0x14, 0xde, 0x5e, 0x0b, 0xdb,
    0xe0, 0x32, 0x3a, 0x0a, 0x49, 0x06, 0x24, 0x5c, 0xc2, 0xd3, 0xac, 0x62, 0x91, 0x95, 0xe4, 0x79,
    0xe7, 0xc8, 0x37, 0x6d, 0x8d, 0xd5, 0x4e, 0xa9, 0x6c, 0x56, 0xf4, 0xea, 0x65, 0x7a, 0xae, 0x08,
    0xba, 0x78, 0x25, 0x2e, 0x1c, 0xa6, 0xb4, 0xc6, 0xe8, 0xdd, 0x74, 0x1f, 0x4b, 0xbd, 0x8b, 0x8a,
    0x70, 0x3e, 0xb5, 0x66, 0x48, 0x03, 0xf6, 0x0e, 0x61, 0x35, 0x57, 0xb9, 0x86, 0xc1, 0x1d, 0x9e,
    0xe1, 0xf8, 0x98, 0x11, 0x69, 0xd9, 0x8e, 0x94, 0x9b, 0x1e, 0x87, 0xe9, 0xce, 0x55, 0x28, 0xdf,
    0x8c, 0xa1, 0x89, 0x0d, 0xbf, 0xe6, 0x42, 0x68, 0x41, 0x99, 0x2d, 0x0f, 0xb0, 0x54, 0xbb, 0x16]

/-- The inverse of `substitution`. -/
def inverseSubstitution : Array UInt8 :=
  #[0x52, 0x09, 0x6a, 0xd5, 0x30, 0x36, 0xa5, 0x38, 0xbf, 0x40, 0xa3, 0x9e, 0x81, 0xf3, 0xd7, 0xfb,
    0x7c, 0xe3, 0x39, 0x82, 0x9b, 0x2f, 0xff, 0x87, 0x34, 0x8e, 0x43, 0x44, 0xc4, 0xde, 0xe9, 0xcb,
    0x54, 0x7b, 0x94, 0x32, 0xa6, 0xc2, 0x23, 0x3d, 0xee, 0x4c, 0x95, 0x0b, 0x42, 0xfa, 0xc3, 0x4e,
    0x08, 0x2e, 0xa1, 0x66, 0x28, 0xd9, 0x24, 0xb2, 0x76, 0x5b, 0xa2, 0x49, 0x6d, 0x8b, 0xd1, 0x25,
    0x72, 0xf8, 0xf6, 0x64, 0x86, 0x68, 0x98, 0x16, 0xd4, 0xa4, 0x5c, 0xcc, 0x5d, 0x65, 0xb6, 0x92,
    0x6c, 0x70, 0x48, 0x50, 0xfd, 0xed, 0xb9, 0xda, 0x5e, 0x15, 0x46, 0x57, 0xa7, 0x8d, 0x9d, 0x84,
    0x90, 0xd8, 0xab, 0x00, 0x8c, 0xbc, 0xd3, 0x0a, 0xf7, 0xe4, 0x58, 0x05, 0xb8, 0xb3, 0x45, 0x06,
    0xd0, 0x2c, 0x1e, 0x8f, 0xca, 0x3f, 0x0f, 0x02, 0xc1, 0xaf, 0xbd, 0x03, 0x01, 0x13, 0x8a, 0x6b,
    0x3a, 0x91, 0x11, 0x41, 0x4f, 0x67, 0xdc, 0xea, 0x97, 0xf2, 0xcf, 0xce, 0xf0, 0xb4, 0xe6, 0x73,
    0x96, 0xac, 0x74, 0x22, 0xe7, 0xad, 0x35, 0x85, 0xe2, 0xf9, 0x37, 0xe8, 0x1c, 0x75, 0xdf, 0x6e,
    0x47, 0xf1, 0x1a, 0x71, 0x1d, 0x29, 0xc5, 0x89, 0x6f, 0xb7, 0x62, 0x0e, 0xaa, 0x18, 0xbe, 0x1b,
    0xfc, 0x56, 0x3e, 0x4b, 0xc6, 0xd2, 0x79, 0x20, 0x9a, 0xdb, 0xc0, 0xfe, 0x78, 0xcd, 0x5a, 0xf4,
    0x1f, 0xdd, 0xa8, 0x33, 0x88, 0x07, 0xc7, 0x31, 0xb1, 0x12, 0x10, 0x59, 0x27, 0x80, 0xec, 0x5f,
    0x60, 0x51, 0x7f, 0xa9, 0x19, 0xb5, 0x4a, 0x0d, 0x2d, 0xe5, 0x7a, 0x9f, 0x93, 0xc9, 0x9c, 0xef,
    0xa0, 0xe0, 0x3b, 0x4d, 0xae, 0x2a, 0xf5, 0xb0, 0xc8, 0xeb, 0xbb, 0x3c, 0x83, 0x53, 0x99, 0x61,
    0x17, 0x2b, 0x04, 0x7e, 0xba, 0x77, 0xd6, 0x26, 0xe1, 0x69, 0x14, 0x63, 0x55, 0x21, 0x0c, 0x7d]

def sub (b : UInt8) : UInt8 := substitution.getD b.toNat 0

def unsub (b : UInt8) : UInt8 := inverseSubstitution.getD b.toNat 0

/-- Multiplies by two in the field of 256 elements. -/
def double (b : UInt8) : UInt8 := (b <<< 1) ^^^ (if b < 0x80 then 0 else 0x1b)

/-- Four bytes, from the top row to the bottom row. -/
structure Column where
  a : UInt8
  b : UInt8
  c : UInt8
  d : UInt8
  deriving DecidableEq, Repr

namespace Column

def zero : Column := ⟨0, 0, 0, 0⟩

def add (x y : Column) : Column := ⟨x.a ^^^ y.a, x.b ^^^ y.b, x.c ^^^ y.c, x.d ^^^ y.d⟩

def map (f : UInt8 → UInt8) (x : Column) : Column := ⟨f x.a, f x.b, f x.c, f x.d⟩

/-- The top byte moves to the bottom. -/
def rotate (x : Column) : Column := ⟨x.b, x.c, x.d, x.a⟩

/-- Each byte becomes twice itself, three times the next, and the other two. -/
def mix (x : Column) : Column :=
  let f (p q r s : UInt8) : UInt8 := double p ^^^ (double q ^^^ q) ^^^ r ^^^ s
  ⟨f x.a x.b x.c x.d, f x.b x.c x.d x.a, f x.c x.d x.a x.b, f x.d x.a x.b x.c⟩

/-- Each byte becomes 14 times itself, 11 times the next, 13 times the one after, and 9 times the
last. -/
def unmix (x : Column) : Column :=
  let two := double
  let four (p : UInt8) := double (double p)
  let eight (p : UInt8) := double (double (double p))
  let f (p q r s : UInt8) : UInt8 :=
    (eight p ^^^ four p ^^^ two p) ^^^ (eight q ^^^ two q ^^^ q) ^^^ (eight r ^^^ four r ^^^ r)
      ^^^ (eight s ^^^ s)
  ⟨f x.a x.b x.c x.d, f x.b x.c x.d x.a, f x.c x.d x.a x.b, f x.d x.a x.b x.c⟩

def toBytes (x : Column) : Bytes := [x.a, x.b, x.c, x.d]

/-- The columns of a byte string; bytes after the last whole column are dropped. -/
def ofBytes : Bytes → List Column
  | a :: b :: c :: d :: rest => ⟨a, b, c, d⟩ :: ofBytes rest
  | _ => []

end Column

/-- Four columns. -/
structure Block where
  p : Column
  q : Column
  r : Column
  s : Column
  deriving DecidableEq, Repr

namespace Block

def add (x y : Block) : Block := ⟨x.p.add y.p, x.q.add y.q, x.r.add y.r, x.s.add y.s⟩

def map (f : Column → Column) (x : Block) : Block := ⟨f x.p, f x.q, f x.r, f x.s⟩

/-- Row `i` moves `i` places to the left. -/
def shift (x : Block) : Block :=
  ⟨⟨x.p.a, x.q.b, x.r.c, x.s.d⟩, ⟨x.q.a, x.r.b, x.s.c, x.p.d⟩, ⟨x.r.a, x.s.b, x.p.c, x.q.d⟩,
    ⟨x.s.a, x.p.b, x.q.c, x.r.d⟩⟩

/-- Row `i` moves `i` places to the right. -/
def unshift (x : Block) : Block :=
  ⟨⟨x.p.a, x.s.b, x.r.c, x.q.d⟩, ⟨x.q.a, x.p.b, x.s.c, x.r.d⟩, ⟨x.r.a, x.q.b, x.p.c, x.s.d⟩,
    ⟨x.s.a, x.r.b, x.q.c, x.p.d⟩⟩

def toBytes (x : Block) : Bytes := x.p.toBytes ++ x.q.toBytes ++ x.r.toBytes ++ x.s.toBytes

/-- A block from its columns; missing ones are zero. -/
def ofColumns (cs : List Column) : Block :=
  ⟨cs.getD 0 .zero, cs.getD 1 .zero, cs.getD 2 .zero, cs.getD 3 .zero⟩

def ofBytes (bs : Bytes) : Block := ofColumns (Column.ofBytes bs)

end Block

/-- The round keys: one before the first round, one for each round that mixes, one for the last. -/
structure Schedule where
  first : Block
  middle : List Block
  last : Block
  deriving DecidableEq, Repr

namespace Schedule

/-- Column `i` of the expanded key, from the columns before it: the column one key length before,
changed by the previous column, which is itself changed where a new stretch of the key begins. -/
def nextColumn (keyColumns : Nat) (w : Array Column) (roundConstant : UInt8) : Column :=
  let i := w.size
  let previous := w.getD (i - 1) .zero
  let change :=
    if i % keyColumns = 0 then (previous.rotate.map sub).add ⟨roundConstant, 0, 0, 0⟩
    else if 6 < keyColumns ∧ i % keyColumns = 4 then previous.map sub
    else previous
  (w.getD (i - keyColumns) .zero).add change

/-- The columns of a key and `count` more. -/
def expand (keyColumns : Nat) : (count : Nat) → Array Column → (roundConstant : UInt8) → Array Column
  | 0, w, _ => w
  | count + 1, w, rc =>
    expand keyColumns count (w.push (nextColumn keyColumns w rc))
      (if w.size % keyColumns = 0 then double rc else rc)

/-- The round keys in a list of columns, four each. -/
def blocks : List Column → List Block
  | p :: q :: r :: s :: rest => ⟨p, q, r, s⟩ :: blocks rest
  | _ => []

/-- The round keys of a key of 16 or 32 bytes, for 10 or 14 rounds. -/
def ofKey (key : Bytes) : Schedule :=
  let columns := Column.ofBytes key
  let n := columns.length
  let keys := blocks (expand n (4 * (n + 7) - n) columns.toArray 1).toList
  { first := keys.headD (Block.ofColumns [])
    middle := keys.tail.dropLast
    last := keys.getLastD (Block.ofColumns []) }

end Schedule

/-- A round that mixes. -/
def round (x : Block) (key : Block) : Block := ((x.map (·.map sub)).shift.map .mix).add key

/-- Undoes `round`. -/
def unround (key : Block) (x : Block) : Block := ((x.add key).map .unmix).unshift.map (·.map unsub)

def encrypt (k : Schedule) (x : Block) : Block :=
  ((k.middle.foldl round (x.add k.first)).map (·.map sub)).shift.add k.last

def decrypt (k : Schedule) (x : Block) : Block :=
  (k.middle.foldr unround ((x.add k.last).unshift.map (·.map unsub))).add k.first

end TlsClient.Aes
