/-!
# Byte strings

Byte strings and the numbers they spell.  A number is written big-endian in base 256, either in a
fixed width (`Bytes.ofNat`, which keeps the low digits) or in the fewest digits (`Bytes.shortest`).
-/

namespace TlsClient

/-- A byte string. -/
abbrev Bytes := List UInt8

namespace Bytes

/-- The number whose base-256 digits, most significant first, are the bytes. -/
def toNat (bs : Bytes) : Nat := bs.foldl (fun n b => n * 256 + b.toNat) 0

/-- The low `width` base-256 digits of a number, most significant first. -/
def ofNat : (width : Nat) → Nat → Bytes
  | 0, _ => []
  | width + 1, n => ofNat width (n / 256) ++ [UInt8.ofNat n]

/-- How many base-256 digits a number needs; zero needs one. -/
def digits (n : Nat) : Nat := n.log2 / 8 + 1

/-- The shortest big-endian form of a number.  Zero is the single byte zero. -/
def shortest (n : Nat) : Bytes := ofNat (digits n) n

/-- Zero bytes in front, up to `width` bytes in all; a longer string is left as it is. -/
def padLeft (width : Nat) (bs : Bytes) : Bytes := List.replicate (width - bs.length) 0 ++ bs

/-- Bytewise exclusive or, as long as the shorter operand. -/
def xor (a b : Bytes) : Bytes := a.zipWith (· ^^^ ·) b

/-- Cut into pieces of `n` bytes, the last of which may be shorter. -/
def chunks (n : Nat) (bs : Bytes) : List Bytes :=
  if n = 0 ∨ bs = [] then []
  else bs.take n :: chunks n (bs.drop n)
termination_by bs.length
decreasing_by
  have := List.length_pos_iff.mpr fun hb : bs = [] => ‹¬(n = 0 ∨ bs = [])› (.inr hb)
  rw [List.length_drop]
  omega

/-- Lower-case hexadecimal, two digits a byte. -/
def hex (bs : Bytes) : String :=
  bs.foldl (fun s b => (s.push (Nat.digitChar (b.toNat / 16))).push (Nat.digitChar (b.toNat % 16))) ""

/-- The bytes of a text in UTF-8. -/
def ofString (s : String) : Bytes := s.toUTF8.toList

@[simp] theorem length_ofNat (width n : Nat) : (ofNat width n).length = width := by
  induction width generalizing n with
  | zero => rfl
  | succ width ih => simp [ofNat, ih]

@[simp] theorem toNat_nil : toNat [] = 0 := rfl

@[simp] theorem toNat_concat (bs : Bytes) (b : UInt8) :
    toNat (bs ++ [b]) = toNat bs * 256 + b.toNat := by
  simp [toNat]

end Bytes

end TlsClient
