import TlsClient.Bytes

/-!
# Pairs of numbers in DER

A signature that consists of two numbers is written as a sequence of two integers.  Every number and
every length has exactly one written form, and nothing may follow.
-/

namespace TlsClient.Der

/-- Below this a length is a single byte. -/
def shortLimit : Nat := 0x80

/-- A length in its only form: a byte if it is small, else its digits behind their number. -/
def encodeLength (n : Nat) : Bytes :=
  if n < shortLimit then [UInt8.ofNat n]
  else UInt8.ofNat (shortLimit + Bytes.digits n) :: Bytes.shortest n

/-- Reads a length. -/
def decodeLength? : Bytes → Option (Nat × Bytes)
  | [] => none
  | first :: rest =>
    if first.toNat < shortLimit then some (first.toNat, rest)
    else
      let count := first.toNat - shortLimit
      let n := Bytes.toNat (rest.take count)
      if 4 < count ∨ rest.length < count ∨ n < shortLimit ∨ Bytes.digits n ≠ count then none
      else some (n, rest.drop count)

/-- A value behind its tag and its length. -/
def encodeElement (tag : UInt8) (content : Bytes) : Bytes :=
  tag :: encodeLength content.length ++ content

/-- Reads a value with a given tag: its content and what follows. -/
def decodeElement? (tag : UInt8) : Bytes → Option (Bytes × Bytes)
  | [] => none
  | t :: rest =>
    if t ≠ tag then none
    else
      match decodeLength? rest with
      | none => none
      | some (n, rest) => if rest.length < n then none else some (rest.take n, rest.drop n)

def integerTag : UInt8 := 0x02

def sequenceTag : UInt8 := 0x30

/-- The digits of a number, with a zero in front if they would look negative. -/
def signedDigits (n : Nat) : Bytes :=
  let digits := Bytes.shortest n
  if 0x80 ≤ digits.headD 0 then 0 :: digits else digits

/-- The number that some digits stand for, if it is not negative and the digits are its only form. -/
def ofSignedDigits? (digits : Bytes) : Option Nat :=
  let n := Bytes.toNat digits
  if signedDigits n = digits then some n else none

def encodeNumber (n : Nat) : Bytes := encodeElement integerTag (signedDigits n)

def decodeNumber? (bs : Bytes) : Option (Nat × Bytes) := do
  let (digits, rest) ← decodeElement? integerTag bs
  return (← ofSignedDigits? digits, rest)

/-- Two numbers in a sequence. -/
def encodePair (r s : Nat) : Bytes := encodeElement sequenceTag (encodeNumber r ++ encodeNumber s)

/-- Reads two numbers in a sequence, with nothing behind them. -/
def decodePair? (bs : Bytes) : Option (Nat × Nat) := do
  let (content, after) ← decodeElement? sequenceTag bs
  let (r, rest) ← decodeNumber? content
  let (s, rest) ← decodeNumber? rest
  if after.isEmpty && rest.isEmpty then return (r, s) else none

end TlsClient.Der
