import TlsClient.Handshake.Message
import TlsClient.Secrets

/-!
# Key material has the right lengths

The pseudorandom function gives as many bytes as it is asked for, so the keys that are cut from its
output always fit their cipher (`sending_ok`, `receiving_ok`), and both proofs have twelve bytes.
-/

namespace TlsClient

theorem Prf.length_blocks {mac : Bytes → Bytes} {size : Nat} (hmac : ∀ bs, (mac bs).length = size)
    (seed : Bytes) (count : Nat) (a : Bytes) : (blocks mac seed count a).length = count * size := by
  induction count generalizing a with
  | zero => simp [blocks]
  | succ count ih => rw [blocks, List.length_append, hmac, ih, Nat.add_one_mul, Nat.add_comm]

theorem Prf.length_expand {mac : Bytes → Bytes} {size : Nat} (hmac : ∀ bs, (mac bs).length = size)
    (hsize : 0 < size) (seed : Bytes) (n : Nat) : (expand mac size seed n).length = n := by
  have hle : n ≤ (n + size - 1) / size * size := by
    have := Nat.div_add_mod' (n + size - 1) size
    have := Nat.mod_lt (n + size - 1) hsize
    omega
  rw [expand, List.length_take, length_blocks hmac]
  exact Nat.min_eq_left hle

@[simp] theorem length_prf (secret label seed : Bytes) (n : Nat) :
    (prf secret label seed n).length = n := by
  rw [prf, Bytes.xor, List.length_zipWith, Prf.length_expand (by simp) (by decide),
    Prf.length_expand (by simp) (by decide), Nat.min_self]

/-- A key of the right length can be put in place. -/
theorem Protection.ofKeys_ok {bulk : BulkCipher} {key : Bytes} (h : key.length = bulk.keyLength)
    (macKey iv : Bytes) : ∃ p, ofKeys bulk macKey key iv = .ok p := by
  unfold ofKeys BlockKey.ofBytes?
  rw [if_neg fun hne => hne h]
  cases bulk <;> exact ⟨_, rfl⟩

namespace Secrets

variable (s : Secrets)

theorem sending_ok : ∃ p, s.sending = .ok p := by
  refine Protection.ofKeys_ok ?_ _ _
  simp only [keyBlock, List.length_take, List.length_drop, length_prf, Suite.keyBlockLength]
  omega

theorem receiving_ok : ∃ p, s.receiving = .ok p := by
  refine Protection.ofKeys_ok ?_ _ _
  simp only [keyBlock, List.length_take, List.length_drop, length_prf, Suite.keyBlockLength]
  omega

@[simp] theorem length_clientVerify (digest : Bytes) :
    (s.clientVerify digest).length = verifyLength := length_prf ..

@[simp] theorem length_serverVerify (digest : Bytes) :
    (s.serverVerify digest).length = verifyLength := length_prf ..

end Secrets

end TlsClient
