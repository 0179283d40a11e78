import TlsClient.Bytes

/-!
# Reading and writing the wire format

A decoder takes bytes from the front of a string and either fails with a `DecodeError` or returns a
value and the bytes it left.  Integers are big-endian and of fixed width.  A vector is a length of
one, two or three bytes and then that many bytes; a list is a vector that holds its items one after
another with nothing left over.
-/

namespace TlsClient

/-- Why a byte string is not a message. -/
inductive DecodeError where
  /-- A handshake message announces a longer body than any message needs. -/
  | handshakeTooLarge
  /-- A ChangeCipherSpec holds something other than the byte one. -/
  | badChangeCipherSpec
  /-- A content type that carries no message. -/
  | badContentType
  /-- A handshake record without a payload. -/
  | emptyPayload
  /-- A length beyond its limit. -/
  | tooLarge
  /-- Fewer bytes than a length announces. -/
  | tooShort
  /-- The bytes end before `what`. -/
  | missing (what : String)
  /-- Bytes are left over after `what`. -/
  | trailing (what : String)
  /-- The key exchange in use has no such message. -/
  | unexpected (what : String)
  /-- A protocol version other than TLS 1.0. -/
  | unknownVersion
  deriving DecidableEq, Repr

/-- Reads a value from the front of a byte string. -/
abbrev Decoder := StateT Bytes (Except DecodeError)

namespace Decoder

/-- The next `n` bytes, or the given failure if there are fewer. -/
def take (n : Nat) (failure : DecodeError) : Decoder Bytes := fun bs =>
  if (bs.take n).length = n then .ok (bs.take n, bs.drop n) else .error failure

/-- Every byte that is left. -/
def rest : Decoder Bytes := fun bs => .ok (bs, [])

/-- Whether any byte is left. -/
def anyLeft : Decoder Bool := fun bs => .ok (!bs.isEmpty, bs)

/-- Fails if any byte is left after `what`. -/
def finish (what : String) : Decoder Unit := fun bs =>
  if bs.isEmpty then .ok ((), bs) else .error (.trailing what)

/-- What an integer of `width` bytes is called when it is missing. -/
def integerName : Nat → String
  | 1 => "u8"
  | 2 => "u16"
  | 3 => "u24"
  | _ => "u32"

/-- A big-endian integer of `width` bytes. -/
def integer (width : Nat) : Decoder Nat := do
  return Bytes.toNat (← take width (.missing (integerName width)))

/-- The next `n` bytes, which a length has announced. -/
def announced (n : Nat) : Decoder Bytes := take n .tooShort

/-- A vector: a length of `width` bytes, then that many bytes. -/
def vector (width : Nat) : Decoder Bytes := do announced (← integer width)

/-- Reads a whole byte string, ignoring what the decoder leaves. -/
def onBytes {α : Type} (d : Decoder α) (bs : Bytes) : Except DecodeError α := Prod.fst <$> d.run bs

/-- Reads a whole byte string, refusing anything left over after `what`. -/
def exactly {α : Type} (what : String) (d : Decoder α) (bs : Bytes) : Except DecodeError α :=
  onBytes (do let a ← d; finish what; return a) bs

/-- At most `fuel` items, until no byte is left. -/
def itemsUpTo {α : Type} (item : Decoder α) : (fuel : Nat) → Bytes → Except DecodeError (List α)
  | _, [] => .ok []
  | 0, _ :: _ => .error .tooShort
  | fuel + 1, bs => do
    let (a, left) ← item.run bs
    return a :: (← itemsUpTo item fuel left)

/-- Items one after another until no byte is left.  An item takes at least one byte, so there are
no more items than bytes. -/
def items {α : Type} (item : Decoder α) (bs : Bytes) : Except DecodeError (List α) :=
  itemsUpTo item bs.length bs

/-- A list: a vector that is split into items without remainder. -/
def list {α : Type} (width : Nat) (item : Decoder α) : Decoder (List α) := do
  items item (← vector width)

/-- A list whose announced length may not exceed `limit` bytes. -/
def limitedList {α : Type} (width limit : Nat) (item : Decoder α) : Decoder (List α) := do
  let n ← integer width
  if limit < n then throw .tooLarge
  items item (← announced n)

end Decoder

namespace Encoder

/-- A vector: the length in `width` bytes, of which a longer length loses its high digits, and then
all the bytes. -/
def vector (width : Nat) (bs : Bytes) : Bytes := Bytes.ofNat width bs.length ++ bs

/-- A list: a vector of the items one after another. -/
def list {α : Type} (width : Nat) (item : α → Bytes) (xs : List α) : Bytes :=
  vector width (xs.flatMap item)

end Encoder

/-- A type with a form on the wire. -/
class Wire (α : Type) where
  /-- The bytes of a value. -/
  encode : α → Bytes
  /-- Reads a value from the front of a byte string. -/
  decode : Decoder α

end TlsClient
