import TlsClient.Cipher.BlockKey
import TlsClient.Proofs.Cipher.Aes
import TlsClient.Proofs.Cipher.Des
import TlsClient.Proofs.Record.Fragments

/-!
# Chained blocks can be undone

A block key takes blocks to blocks of the same length and back (`BlockKey.decrypt_encrypt`).  So does
chaining, for texts of whole blocks: decryption gives the text back and is left with the same
initialisation vector as encryption (`Cbc.decrypt_encrypt`).  That is an induction over the blocks in
which the ciphertext before is the same on both sides.
-/

namespace TlsClient

namespace Bytes

variable {n : Nat}

/-- Whole blocks are cut where they were joined. -/
theorem chunks_flatten (hn : n ≠ 0) {cs : List Bytes} (h : ∀ c ∈ cs, c.length = n) :
    chunks n cs.flatten = cs := by
  induction cs with
  | nil => rw [List.flatten_nil, chunks, if_pos (.inr rfl)]
  | cons c cs ih =>
    obtain ⟨hc, hcs⟩ := List.forall_mem_cons.mp h
    have hne : c ++ cs.flatten ≠ [] := by
      intro hnil
      rw [(List.append_eq_nil_iff.mp hnil).1] at hc
      exact hn hc.symm
    rw [List.flatten_cons, chunks, if_neg (not_or_intro hn hne), ← hc, List.take_left,
      List.drop_left, hc, ih hcs]

theorem length_of_mem_chunks {bs c : Bytes} (hbs : bs.length % n = 0) (h : c ∈ chunks n bs) :
    c.length = n := by
  fun_induction chunks n bs with
  | case1 bs h' => cases h
  | case2 bs h' ih =>
    obtain ⟨hn, hne⟩ := not_or.mp h'
    have hlength : n ≤ bs.length :=
      Nat.le_of_dvd (List.length_pos_iff.mpr hne) (Nat.dvd_of_mod_eq_zero hbs)
    rcases List.mem_cons.mp h with rfl | h
    · rw [List.length_take, Nat.min_eq_left hlength]
    · exact ih (by rw [List.length_drop, ← Nat.mod_eq_sub_mod hlength, hbs]) h

theorem length_flatten {cs : List Bytes} (h : ∀ c ∈ cs, c.length = n) :
    cs.flatten.length = cs.length * n := by
  induction cs with
  | nil => exact (Nat.zero_mul n).symm
  | cons c cs ih =>
    obtain ⟨hc, hcs⟩ := List.forall_mem_cons.mp h
    rw [List.flatten_cons, List.length_append, hc, ih hcs, List.length_cons, Nat.succ_mul,
      Nat.add_comm]

/-- What is cut into whole blocks is as long as they are together. -/
theorem length_of_chunks (hn : n ≠ 0) {bs : Bytes} (hbs : bs.length % n = 0) :
    bs.length = (chunks n bs).length * n := by
  have hchunks := length_flatten fun c hc => length_of_mem_chunks (c := c) hbs hc
  rwa [flatten_chunks hn] at hchunks

theorem xor_xor {a b : Bytes} (h : a.length = b.length) : xor (xor a b) b = a := by
  induction a generalizing b with
  | nil => rfl
  | cons x xs ih =>
    cases b with
    | nil => cases h
    | cons y ys => exact congrArg₂ List.cons (Aes.xor_cancel x y) (ih (Nat.succ.inj h))

@[simp] theorem length_xor (a b : Bytes) : (xor a b).length = min a.length b.length :=
  List.length_zipWith

end Bytes

namespace BlockKey

theorem blockLength_pos (key : BlockKey) : 0 < key.blockLength := by
  cases key with
  | aes k => exact Nat.zero_lt_succ _
  | tripleDes k l m => exact Nat.zero_lt_succ _

theorem blockLength_le (key : BlockKey) : key.blockLength ≤ 16 := by
  cases key with
  | aes k => exact Nat.le_refl 16
  | tripleDes k l m => exact Nat.le_add_left 8 8

theorem length_encrypt (key : BlockKey) (block : Bytes) :
    (key.encrypt block).length = key.blockLength := by
  cases key with
  | aes k => exact Aes.Block.length_toBytes _
  | tripleDes k l m => exact Des.length_encrypt _ _

theorem length_decrypt (key : BlockKey) (block : Bytes) :
    (key.decrypt block).length = key.blockLength := by
  cases key with
  | aes k => exact Aes.Block.length_toBytes _
  | tripleDes k l m => exact Des.length_decrypt _ _

/-- A block that was encrypted is decrypted to itself. -/
theorem decrypt_encrypt (key : BlockKey) {block : Bytes} (h : block.length = key.blockLength) :
    key.decrypt (key.encrypt block) = block := by
  cases key with
  | aes k =>
    show (Aes.decrypt k (.ofBytes (Aes.encrypt k (.ofBytes block)).toBytes)).toBytes = block
    rw [Aes.Block.ofBytes_toBytes, Aes.decrypt_encrypt, Aes.Block.toBytes_ofBytes h]
  | tripleDes k l m =>
    show Des.decrypt k (Des.encrypt l (Des.decrypt m (Des.encrypt m (Des.decrypt l
      (Des.encrypt k block))))) = block
    rw [Des.decrypt_encrypt (Des.length_decrypt _ _), Des.encrypt_decrypt (Des.length_encrypt _ _),
      Des.decrypt_encrypt h]

/-- A key that is put in place works on the blocks of its cipher. -/
theorem blockLength_of_ofBytes? {bulk : BulkCipher} {key : Bytes} {k : BlockKey}
    (h : ofBytes? bulk key = some k) : k.blockLength = bulk.blockLength := by
  unfold ofBytes? at h
  split at h
  · cases h
  · cases bulk <;> cases h <;> rfl

end BlockKey

namespace Cbc

variable {n : Nat} {e d : Bytes → Bytes} {previous : Bytes} {blocks : List Bytes}

theorem length_encryptBlocks (e : Bytes → Bytes) (previous : Bytes) (blocks : List Bytes) :
    (encryptBlocks e previous blocks).length = blocks.length := by
  induction blocks generalizing previous with
  | nil => rfl
  | cons block blocks ih => exact congrArg Nat.succ (ih _)

theorem length_of_mem_encryptBlocks (he : ∀ b, (e b).length = n) {c : Bytes}
    (h : c ∈ encryptBlocks e previous blocks) : c.length = n := by
  induction blocks generalizing previous with
  | nil => cases h
  | cons block blocks ih =>
    rcases List.mem_cons.mp h with rfl | h
    · exact he _
    · exact ih h

theorem length_decryptBlocks (d : Bytes → Bytes) (previous : Bytes) (blocks : List Bytes) :
    (decryptBlocks d previous blocks).length = blocks.length := by
  induction blocks generalizing previous with
  | nil => rfl
  | cons block blocks ih => exact congrArg Nat.succ (ih _)

theorem length_of_mem_decryptBlocks (hd : ∀ b, (d b).length = n) (hprevious : previous.length = n)
    (hblocks : ∀ b ∈ blocks, b.length = n) {b : Bytes} (h : b ∈ decryptBlocks d previous blocks) :
    b.length = n := by
  induction blocks generalizing previous with
  | nil => cases h
  | cons block blocks ih =>
    obtain ⟨hblock, hblocks⟩ := List.forall_mem_cons.mp hblocks
    rcases List.mem_cons.mp h with rfl | h
    · rw [Bytes.length_xor, hd, hprevious, Nat.min_self]
    · exact ih hblock hblocks h

theorem decryptBlocks_encryptBlocks (hd : ∀ b, b.length = n → d (e b) = b)
    (he : ∀ b, (e b).length = n) (hprevious : previous.length = n)
    (hblocks : ∀ b ∈ blocks, b.length = n) :
    decryptBlocks d previous (encryptBlocks e previous blocks) = blocks := by
  induction blocks generalizing previous with
  | nil => rfl
  | cons block blocks ih =>
    obtain ⟨hblock, hblocks⟩ := List.forall_mem_cons.mp hblocks
    have hxor : (Bytes.xor block previous).length = n := by
      rw [Bytes.length_xor, hblock, hprevious, Nat.min_self]
    rw [encryptBlocks, decryptBlocks, hd _ hxor, Bytes.xor_xor (hblock.trans hprevious.symm),
      ih (he _) hblocks]

variable {key : BlockKey} {iv text : Bytes}

theorem chunks_encrypt (key : BlockKey) (iv text : Bytes) :
    Bytes.chunks key.blockLength (encrypt key iv text).1 =
      encryptBlocks key.encrypt iv (Bytes.chunks key.blockLength text) :=
  Bytes.chunks_flatten key.blockLength_pos.ne' fun _ =>
    length_of_mem_encryptBlocks key.length_encrypt

/-- The next initialisation vector is a block. -/
theorem length_encrypt_iv (hiv : iv.length = key.blockLength) :
    (encrypt key iv text).2.length = key.blockLength := by
  rcases List.mem_cons.mp (List.getLastD_mem_cons (a := iv)
    (l := encryptBlocks key.encrypt iv (Bytes.chunks key.blockLength text))) with h | h
  · exact (congrArg List.length h).trans hiv
  · exact length_of_mem_encryptBlocks key.length_encrypt h

theorem length_encrypt (htext : text.length % key.blockLength = 0) :
    (encrypt key iv text).1.length = text.length := by
  have hencrypted : ∀ c ∈ encryptBlocks key.encrypt iv (Bytes.chunks key.blockLength text),
      c.length = key.blockLength := fun _ => length_of_mem_encryptBlocks key.length_encrypt
  rw [Bytes.length_of_chunks key.blockLength_pos.ne' htext, ← length_encryptBlocks key.encrypt iv]
  exact Bytes.length_flatten hencrypted

/-- A text of whole blocks is decrypted to as many bytes. -/
theorem length_decrypt (hiv : iv.length = key.blockLength)
    (htext : text.length % key.blockLength = 0) :
    (decrypt key iv text).1.length = text.length := by
  have hdecrypted : ∀ b ∈ decryptBlocks key.decrypt iv (Bytes.chunks key.blockLength text),
      b.length = key.blockLength := fun _ => length_of_mem_decryptBlocks key.length_decrypt hiv
    fun _ => Bytes.length_of_mem_chunks htext
  rw [Bytes.length_of_chunks key.blockLength_pos.ne' htext, ← length_decryptBlocks key.decrypt iv]
  exact Bytes.length_flatten hdecrypted

/-- The initialisation vector that is left is a block. -/
theorem length_decrypt_iv (hiv : iv.length = key.blockLength)
    (htext : text.length % key.blockLength = 0) :
    (decrypt key iv text).2.length = key.blockLength := by
  rcases List.mem_cons.mp (List.getLastD_mem_cons (a := iv)
    (l := Bytes.chunks key.blockLength text)) with h | h
  · exact (congrArg List.length h).trans hiv
  · exact Bytes.length_of_mem_chunks htext h

/-- A text of whole blocks is decrypted to itself, and leaves the same initialisation vector. -/
theorem decrypt_encrypt (hiv : iv.length = key.blockLength)
    (htext : text.length % key.blockLength = 0) :
    decrypt key iv (encrypt key iv text).1 = (text, (encrypt key iv text).2) := by
  have hblocks := decryptBlocks_encryptBlocks (fun b => key.decrypt_encrypt) key.length_encrypt hiv
    fun b hb => Bytes.length_of_mem_chunks htext hb
  rw [decrypt, chunks_encrypt]
  show ((decryptBlocks key.decrypt iv _).flatten, _) = _
  rw [hblocks, Bytes.flatten_chunks key.blockLength_pos.ne']
  rfl

end Cbc

end TlsClient
