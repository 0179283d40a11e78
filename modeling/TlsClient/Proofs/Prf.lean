import TlsClient.Prf

/-!
# The pseudorandom function, byte by byte

The expansion of a seed is a stream without end: byte `i` of it depends on the seed and on `i` only, not
on how much is asked for.  So what the pseudorandom function gives is a prefix of one stream
(`prf_eq_stretch`), and what is cut from it is a stretch of that stream (`take_drop_stretch`).
-/

namespace TlsClient

namespace Prf

section Stream

variable {mac : Bytes → Bytes} {size : Nat}

/-- The chaining values of an expansion: the seed, and then each time the keyed hash of the one before. -/
def chain (mac : Bytes → Bytes) (seed : Bytes) : Nat → Bytes
  | 0 => seed
  | i + 1 => mac (chain mac seed i)

/-- Byte `i` of the expansion of a seed by a keyed hash with results of `size` bytes: block by block, the keyed
hashes of the chaining values after the first, each with the seed behind it. -/
def stream (mac : Bytes → Bytes) (size : Nat) (seed : Bytes) (i : Nat) : UInt8 :=
  (mac (chain mac seed (i / size + 1) ++ seed)).getD (i % size) 0

/-- A block is made of the bytes of the stream at its place. -/
theorem block_eq_stream (hmac : ∀ bs, (mac bs).length = size) (seed : Bytes) (j : Nat) :
    mac (chain mac seed (j + 1) ++ seed) =
      (List.range size).map fun i => stream mac size seed (j * size + i) := by
  refine List.ext_getElem (by rw [hmac, List.length_map, List.length_range]) fun i hi hi' => ?_
  have hlt : i < size := hmac (chain mac seed (j + 1) ++ seed) ▸ hi
  have hdiv : (j * size + i) / size = j := by
    rw [Nat.mul_comm, Nat.mul_add_div (Nat.zero_lt_of_lt hlt), Nat.div_eq_of_lt hlt, Nat.add_zero]
  have hmod : (j * size + i) % size = i := by
    rw [Nat.mul_comm, Nat.mul_add_mod, Nat.mod_eq_of_lt hlt]
  rw [List.getElem_map, List.getElem_range, stream, hdiv, hmod, List.getD_eq_getElem?_getD,
    List.getElem?_eq_getElem hi, Option.getD_some]

theorem blocks_eq_stream (hmac : ∀ bs, (mac bs).length = size) (seed : Bytes) (count j : Nat) :
    blocks mac seed count (chain mac seed (j + 1)) =
      (List.range (count * size)).map fun i => stream mac size seed (j * size + i) := by
  induction count generalizing j with
  | zero => rw [Nat.zero_mul]; rfl
  | succ count ih =>
    have hnext := ih (j + 1)
    rw [blocks, block_eq_stream hmac, Nat.succ_mul, Nat.add_comm (count * size), List.range_add,
      List.map_append, List.map_map]
    refine congrArg (_ ++ ·) (hnext.trans ?_)
    refine List.map_congr_left fun i _ => ?_
    show stream mac size seed ((j + 1) * size + i) = stream mac size seed (j * size + (size + i))
    rw [Nat.succ_mul, Nat.add_assoc]

/-- What is expanded is the beginning of the stream. -/
theorem expand_eq_stream (hmac : ∀ bs, (mac bs).length = size) (hsize : 0 < size) (seed : Bytes)
    (n : Nat) : expand mac size seed n = (List.range n).map (stream mac size seed) := by
  have hblocks := blocks_eq_stream hmac seed ((n + size - 1) / size) 0
  simp only [Nat.zero_mul, Nat.zero_add] at hblocks
  have hle : n ≤ (n + size - 1) / size * size := by
    have := Nat.div_add_mod' (n + size - 1) size
    have := Nat.mod_lt (n + size - 1) hsize
    omega
  rw [expand, show mac seed = chain mac seed 1 from rfl, hblocks, ← List.map_take, List.take_range,
    Nat.min_eq_left hle]

end Stream

/-- Byte `i` of what a secret yields for a seed: the first half of the secret, which has the middle byte too,
keys one stream, the last half, which also has it, the other. -/
def byte (secret seed : Bytes) (i : Nat) : UInt8 :=
  stream (Hash.hmacMd5 (secret.take ((secret.length + 1) / 2))) 16 seed i ^^^
    stream (Hash.hmacSha1 (secret.drop (secret.length / 2))) 20 seed i

/-- A stretch of what a secret yields for a seed: so many bytes, from byte `start`. -/
def stretch (secret seed : Bytes) (start length : Nat) : Bytes :=
  (List.range length).map fun i => byte secret seed (start + i)

variable (secret seed : Bytes)

@[simp] theorem length_stretch (start length : Nat) :
    (stretch secret seed start length).length = length := by
  rw [stretch, List.length_map, List.length_range]

/-- Stretches that follow on each other are one. -/
theorem stretch_append (start m n : Nat) :
    stretch secret seed start m ++ stretch secret seed (start + m) n =
      stretch secret seed start (m + n) := by
  rw [stretch, stretch, stretch, List.range_add, List.map_append, List.map_map]
  refine congrArg _ (List.map_congr_left fun i _ => ?_)
  rw [Function.comp_apply, Nat.add_assoc]

/-- What is cut out of a stretch is a stretch. -/
theorem take_drop_stretch {start length m n : Nat} (h : m + n ≤ length) :
    ((stretch secret seed start length).drop m).take n = stretch secret seed (start + m) n := by
  obtain ⟨rest, rfl⟩ := Nat.exists_eq_add_of_le h
  rw [Nat.add_assoc, ← stretch_append, ← stretch_append, List.drop_left' (by simp),
    List.take_left' (by simp)]

end Prf

/-- The pseudorandom function gives the beginning of the stream, and label and seed count as one. -/
theorem prf_eq_stretch (secret label seed : Bytes) (n : Nat) :
    prf secret label seed n = Prf.stretch secret (label ++ seed) 0 n := by
  have hlast : secret.length - Prf.half secret = secret.length / 2 := by
    rw [Prf.half]
    omega
  rw [prf, Prf.expand_eq_stream (by simp) (by decide), Prf.expand_eq_stream (by simp) (by decide),
    Bytes.xor, List.zipWith_map, List.zipWith_self, Prf.firstHalf, Prf.lastHalf, hlast]
  refine List.map_congr_left fun i _ => ?_
  rw [Nat.zero_add]
  rfl

end TlsClient
