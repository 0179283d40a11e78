import TlsClient.Bytes
import TlsClient.Number.Modular

/-!
# Operations that can fail

Elsewhere subtraction stops at zero, the remainder for zero is the number itself, and a stretch that
is cut out of a string ends where the string does.  Here the same operations have no result in these
cases.  A computation that is written with them and has a result is one in which nothing of the kind
happens.
-/

namespace TlsClient

namespace Number

variable {a b e m : Nat}

/-- The difference, if it is not negative. -/
def sub? (a b : Nat) : Option Nat := if b ≤ a then some (a - b) else none

/-- The remainder, unless the divisor is zero. -/
def mod? (a m : Nat) : Option Nat := if m = 0 then none else some (a % m)

/-- A power modulo `m`, unless that is zero. -/
def powMod? (b e m : Nat) : Option Nat := if m = 0 then none else some (powMod b e m)

theorem sub?_of_le (h : b ≤ a) : sub? a b = some (a - b) := if_pos h

theorem mod?_of_pos (h : 0 < m) : mod? a m = some (a % m) := if_neg (Nat.ne_of_gt h)

theorem powMod?_of_pos (h : 0 < m) : powMod? b e m = some (powMod b e m) := if_neg (Nat.ne_of_gt h)

end Number

/-- The bytes of a string from `start` up to `stop`, if both are places in it and in this order. -/
def Bytes.slice? (bs : Bytes) (start stop : Nat) : Option Bytes :=
  if start ≤ stop ∧ stop ≤ bs.length then some ((bs.drop start).take (stop - start)) else none

theorem Bytes.slice?_of_le {bs : Bytes} {start stop : Nat} (hstart : start ≤ stop)
    (hstop : stop ≤ bs.length) : bs.slice? start stop = some ((bs.drop start).take (stop - start)) :=
  if_pos ⟨hstart, hstop⟩

end TlsClient
