import TlsClient.Bytes

/-!
# Reading bytes as UTF-8 text

Bytes that are not UTF-8 are shown by the replacement character, one for each longest beginning of a
character that the bytes after it do not complete.
-/

namespace TlsClient.Text

/-- What a leading byte announces: how many bytes follow, the range of the first of them, and the
bits it contributes itself. -/
structure Lead where
  following : Nat
  low : UInt8
  high : UInt8
  bits : Nat

/-- The leading bytes of UTF-8.  The range of the next byte excludes overlong forms, surrogates and
numbers beyond the last character. -/
def lead? (b : UInt8) : Option Lead :=
  if b < 0x80 then some ⟨0, 0x80, 0xbf, b.toNat⟩
  else if b < 0xc2 then none
  else if b < 0xe0 then some ⟨1, 0x80, 0xbf, b.toNat % 32⟩
  else if b < 0xf0 then
    some ⟨2, if b = 0xe0 then 0xa0 else 0x80, if b = 0xed then 0x9f else 0xbf, b.toNat % 16⟩
  else if b < 0xf5 then
    some ⟨3, if b = 0xf0 then 0x90 else 0x80, if b = 0xf4 then 0x8f else 0xbf, b.toNat % 8⟩
  else none

/-- Reads the following bytes of a character as far as they are in range; the number is there only
if all of them are. -/
def following : (n : Nat) → (low high : UInt8) → (bits : Nat) → Bytes → Option Nat × Bytes
  | 0, _, _, bits, bs => (some bits, bs)
  | _ + 1, _, _, _, [] => (none, [])
  | n + 1, low, high, bits, b :: bs =>
    if low ≤ b ∧ b ≤ high then following n 0x80 0xbf (bits * 64 + b.toNat % 64) bs
    else (none, b :: bs)

/-- The character for what cannot be read. -/
def replacement : Char := Char.ofNat 0xfffd

/-- At most `fuel` characters. -/
def charsUpTo : (fuel : Nat) → Bytes → List Char
  | 0, _ => []
  | _ + 1, [] => []
  | fuel + 1, b :: bs =>
    match lead? b with
    | none => replacement :: charsUpTo fuel bs
    | some l =>
      match following l.following l.low l.high l.bits bs with
      | (some n, bs) => Char.ofNat n :: charsUpTo fuel bs
      | (none, bs) => replacement :: charsUpTo fuel bs

/-- The text of a byte string.  Every character takes at least one byte. -/
def ofUtf8 (bs : Bytes) : String := String.ofList (charsUpTo bs.length bs)

end TlsClient.Text
