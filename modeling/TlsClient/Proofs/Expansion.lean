import TlsClient.Proofs.Prf

/-!
# The pseudorandom function and its specification

The specification gives an expansion as terms one behind the other, as many as are needed (`Prf.terms`),
and cuts the secret into halves that share a middle byte (`Prf.Halves`).  An expansion can also be worked
out in place: a string of zeros is gone over twice, in pieces of 16 bytes and in pieces of 20, and each
piece takes in the next block (`Prf.mask`).  All three give the same bytes, however many are asked for
(`prf_conforms`), although neither size divides the other or the length.
-/

namespace TlsClient

namespace Prf

section Stream

variable {mac : Bytes → Bytes} {size : Nat}

/-! ## The expansion as the specification has it -/

/-- The first `count` terms of the expansion of a seed, one behind the other: the keyed hash of each
chaining value after the first, with the seed behind it. -/
def terms (mac : Bytes → Bytes) (seed : Bytes) (count : Nat) : Bytes :=
  (List.range count).flatMap fun i => mac (chain mac seed (i + 1) ++ seed)

theorem terms_eq_stream (hmac : ∀ bs, (mac bs).length = size) (seed : Bytes) (count : Nat) :
    terms mac seed count = (List.range (count * size)).map (stream mac size seed) := by
  induction count with
  | zero => rw [Nat.zero_mul]; rfl
  | succ count ih =>
    rw [terms] at ih
    rw [terms, List.range_succ, List.flatMap_append, ih, List.flatMap_singleton, block_eq_stream hmac,
      Nat.succ_mul, List.range_add, List.map_append, List.map_map]
    rfl

/-- What is expanded is the beginning of the terms, however many there are beyond it. -/
theorem expand_eq_terms (hmac : ∀ bs, (mac bs).length = size) (hsize : 0 < size) (seed : Bytes)
    {n count : Nat} (hcount : n ≤ count * size) :
    expand mac size seed n = (terms mac seed count).take n := by
  rw [expand_eq_stream hmac hsize, terms_eq_stream hmac, ← List.map_take, List.take_range,
    Nat.min_eq_left hcount]

/-! ## The expansion in place -/

/-- Takes the blocks of an expansion, from the chaining value `a`, into pieces, one into each. -/
def takeIn (mac : Bytes → Bytes) (seed : Bytes) : (a : Bytes) → (pieces : List Bytes) → Bytes
  | _, [] => []
  | a, piece :: pieces => Bytes.xor piece (mac (a ++ seed)) ++ takeIn mac seed (mac a) pieces

/-- Takes the expansion of a seed into a string, which is done piece by piece. -/
def mask (mac : Bytes → Bytes) (size : Nat) (seed bs : Bytes) : Bytes :=
  takeIn mac seed (mac seed) (Bytes.chunks size bs)

/-- What a string becomes if it takes in the stream from byte `start`. -/
def masked (mac : Bytes → Bytes) (size : Nat) (seed : Bytes) (start : Nat) (bs : Bytes) : Bytes :=
  Bytes.xor bs ((List.range bs.length).map fun i => stream mac size seed (start + i))

theorem masked_append (mac : Bytes → Bytes) (size : Nat) (seed : Bytes) (start : Nat) (a b : Bytes) :
    masked mac size seed start (a ++ b) =
      masked mac size seed start a ++ masked mac size seed (start + a.length) b := by
  rw [masked, List.length_append, List.range_add, List.map_append, List.map_map, Bytes.xor,
    List.zipWith_append (by simp)]
  simp only [masked, Bytes.xor, Function.comp_def, Nat.add_assoc]

/-- A piece that is no longer than a block takes in the stream at the place of the block. -/
theorem xor_block (hmac : ∀ bs, (mac bs).length = size) (seed : Bytes) (j : Nat) {piece : Bytes}
    (hpiece : piece.length ≤ size) :
    Bytes.xor piece (mac (chain mac seed (j + 1) ++ seed)) = masked mac size seed (j * size) piece := by
  rw [block_eq_stream hmac]
  refine List.ext_getElem (by simp [masked, Bytes.xor, hpiece]) fun i hi hi' => ?_
  simp only [masked, Bytes.xor, List.getElem_zipWith, List.getElem_map, List.getElem_range]

/-- The pieces take in the stream one after another. -/
theorem takeIn_chunks (hmac : ∀ bs, (mac bs).length = size) (hsize : 0 < size) (seed bs : Bytes)
    (j : Nat) : takeIn mac seed (chain mac seed (j + 1)) (Bytes.chunks size bs) =
      masked mac size seed (j * size) bs := by
  induction bs using Bytes.chunks.induct size generalizing j with
  | case1 bs h =>
    obtain rfl := h.resolve_left (Nat.ne_of_gt hsize)
    rw [Bytes.chunks, if_pos (.inr rfl)]
    rfl
  | case2 bs h ih =>
    have hrest : masked mac size seed ((j + 1) * size) (bs.drop size) =
        masked mac size seed (j * size + (bs.take size).length) (bs.drop size) := by
      -- only the last piece can be shorter than a block, and nothing is left behind it
      rcases Nat.le_total size bs.length with hle | hle
      · rw [List.length_take, Nat.min_eq_left hle, Nat.succ_mul]
      · rw [List.drop_eq_nil_of_le hle]
        rfl
    calc takeIn mac seed (chain mac seed (j + 1)) (Bytes.chunks size bs)
        = masked mac size seed (j * size) (bs.take size) ++
            masked mac size seed ((j + 1) * size) (bs.drop size) := by
          rw [Bytes.chunks, if_neg h, takeIn, xor_block hmac seed j (List.length_take_le _ _)]
          exact congrArg (_ ++ ·) (ih (j + 1))
      _ = masked mac size seed (j * size) (bs.take size ++ bs.drop size) := by
          rw [hrest, masked_append]
      _ = masked mac size seed (j * size) bs := by rw [List.take_append_drop]

/-- In place, a string takes in the beginning of the expansion. -/
theorem mask_eq (hmac : ∀ bs, (mac bs).length = size) (hsize : 0 < size) (seed bs : Bytes) :
    mask mac size seed bs = Bytes.xor bs (expand mac size seed bs.length) := by
  have h : takeIn mac seed (mac seed) (Bytes.chunks size bs) = _ := takeIn_chunks hmac hsize seed bs 0
  rw [mask, h, expand_eq_stream hmac hsize, masked]
  simp only [Nat.zero_mul, Nat.zero_add]

end Stream

/-! ## Halves of a secret -/

/-- The first and the last half of a secret, each with the middle byte if there is one. -/
structure Halves (secret first last : Bytes) : Prop where
  front : first <+: secret
  back : last <:+ secret
  length_first : first.length = (secret.length + 1) / 2
  length_last : last.length = (secret.length + 1) / 2

variable {secret first last : Bytes}

theorem halves (secret : Bytes) : Halves secret (firstHalf secret) (lastHalf secret) where
  front := List.take_prefix _ _
  back := List.drop_suffix _ _
  length_first := by
    rw [firstHalf, List.length_take, half]
    omega
  length_last := by
    rw [lastHalf, List.length_drop, half]
    omega

theorem Halves.eq (h : Halves secret first last) :
    first = firstHalf secret ∧ last = lastHalf secret := by
  constructor
  · rw [List.prefix_iff_eq_take.mp h.front, h.length_first]
    rfl
  · rw [List.suffix_iff_eq_drop.mp h.back, h.length_last]
    rfl

theorem xor_zeros {n : Nat} {bs : Bytes} (h : bs.length = n) :
    Bytes.xor (List.replicate n 0) bs = bs := by
  refine List.ext_getElem (by simp [Bytes.xor, h]) fun i hi hi' => ?_
  simp [Bytes.xor]

/-! ## Both expansions -/

/-- How the pseudorandom function stands to its specification: the expansions of label and seed, which
are given as terms without end, by MD5 keyed with the first half of the secret and by SHA-1 keyed with
the last, combined as far as is asked for. -/
structure Conforms (secret label seed : Bytes) : Prop where
  halves : Halves secret (firstHalf secret) (lastHalf secret)
  output : ∀ first last, Halves secret first last → ∀ n i j, n ≤ i * 16 → n ≤ j * 20 →
    prf secret label seed n =
      Bytes.xor ((terms (Hash.hmacMd5 first) (label ++ seed) i).take n)
        ((terms (Hash.hmacSha1 last) (label ++ seed) j).take n)
  /-- A string of zeros takes in both expansions, one after the other, each in pieces of its own size. -/
  inPlace : ∀ first last, Halves secret first last → ∀ n, prf secret label seed n =
    mask (Hash.hmacSha1 last) 20 (label ++ seed)
      (mask (Hash.hmacMd5 first) 16 (label ++ seed) (List.replicate n 0))
  length : ∀ n, (prf secret label seed n).length = n
  shorter : ∀ m n, m ≤ n → prf secret label seed m <+: prf secret label seed n
  joined : ∀ label' seed', label' ++ seed' = label ++ seed → ∀ n,
    prf secret label' seed' n = prf secret label seed n

end Prf

/-- The pseudorandom function gives what its specification says, for secrets of any length. -/
theorem prf_conforms (secret label seed : Bytes) : Prf.Conforms secret label seed where
  halves := Prf.halves secret
  output first last h n i j hi hj := by
    obtain ⟨rfl, rfl⟩ := h.eq
    rw [prf, Prf.expand_eq_terms (by simp) (by decide) _ hi,
      Prf.expand_eq_terms (by simp) (by decide) _ hj]
  inPlace first last h n := by
    obtain ⟨rfl, rfl⟩ := h.eq
    have hlength : (Prf.expand (Hash.hmacMd5 (Prf.firstHalf secret)) 16 (label ++ seed) n).length =
        n := by
      rw [Prf.expand_eq_stream (by simp) (by decide), List.length_map, List.length_range]
    rw [Prf.mask_eq (by simp) (by decide), Prf.mask_eq (by simp) (by decide), List.length_replicate,
      Prf.xor_zeros hlength, hlength]
    rfl
  length n := by rw [prf_eq_stretch, Prf.length_stretch]
  shorter m n h := by
    obtain ⟨k, rfl⟩ := Nat.exists_eq_add_of_le h
    rw [prf_eq_stretch, prf_eq_stretch, ← Prf.stretch_append]
    exact List.prefix_append _ _
  joined label' seed' h n := by rw [prf_eq_stretch, prf_eq_stretch, h]

end TlsClient
