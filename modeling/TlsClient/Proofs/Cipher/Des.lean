import Mathlib.Tactic.Ring
import TlsClient.Cipher.Des
import TlsClient.Proofs.Numbers

/-!
# DES can be undone

The permutations before and after the rounds are inverse to each other, and a round is undone by adding
the same bits once more, whatever the mixing makes of the key and the other half.  So encryption and
decryption undo each other, in both orders, on every block of eight bytes (`decrypt_encrypt`,
`encrypt_decrypt`); triple DES needs both.
-/

namespace TlsClient.Des

/-! ## Bits and bytes -/

namespace Bits

/-- The bits of a byte, highest first. -/
def ofByte (b : UInt8) : List Bool := (List.range 8).map fun i => b.toNat.testBit (7 - i)

theorem ofBytes_eq (bs : Bytes) : ofBytes bs = (bs.flatMap ofByte).toArray := rfl

theorem size_ofBytes (bs : Bytes) : (ofBytes bs).size = 8 * bs.length := by
  rw [ofBytes_eq, List.size_toArray]
  induction bs with
  | nil => rfl
  | cons b bs ih =>
    rw [List.flatMap_cons, List.length_append, ih, List.length_cons, Nat.mul_succ, Nat.add_comm]
    rfl

/-- What bits spell behind a number. -/
theorem foldl_ofByte (n : Nat) (b : UInt8) :
    (ofByte b).foldl (fun n b => 2 * n + b.toNat) n = n * 256 + b.toNat := by
  have hzero : ∀ b : Fin 256, (ofByte (UInt8.ofNat b)).foldl (fun n b => 2 * n + b.toNat) 0 =
      (UInt8.ofNat b).toNat := by decide +kernel
  have hstart : ∀ (bits : List Bool) (n : Nat), bits.foldl (fun n b => 2 * n + b.toNat) n =
      n * 2 ^ bits.length + bits.foldl (fun n b => 2 * n + b.toNat) 0 := by
    intro bits
    induction bits with
    | nil => intro n; simp
    | cons b bits ih =>
      intro n
      rw [List.foldl_cons, List.foldl_cons, ih, ih (2 * 0 + b.toNat), List.length_cons]
      ring
  have hb := hzero ⟨b.toNat, b.toNat_lt⟩
  rw [UInt8.ofNat_toNat] at hb
  have hlength : (ofByte b).length = 8 := rfl
  rw [hstart, hb, hlength, show 2 ^ 8 = 256 from rfl]

theorem toNat_ofBytes (bs : Bytes) : toNat (ofBytes bs) = Bytes.toNat bs := by
  rw [toNat, ofBytes_eq, List.foldl_toArray, List.foldl_flatMap, Bytes.toNat]
  congr
  funext n b
  exact foldl_ofByte n b

theorem toBytes_ofBytes {bs : Bytes} (h : bs.length = 8) : toBytes (ofBytes bs) = bs := by
  rw [toBytes, toNat_ofBytes, ← h, Bytes.ofNat_toNat]

/-- Eight bits are the bits of a byte. -/
theorem exists_ofByte (a b c d e f g h : Bool) : ∃ x, ofByte x = [a, b, c, d, e, f, g, h] :=
  ⟨UInt8.ofNat (toNat #[a, b, c, d, e, f, g, h]), by revert a b c d e f g h; decide +kernel⟩

theorem exists_ofBytes (n : Nat) (bits : List Bool) (h : bits.length = 8 * n) :
    ∃ bs : Bytes, bs.length = n ∧ bs.flatMap ofByte = bits := by
  induction n generalizing bits with
  | zero => exact ⟨[], rfl, (List.length_eq_zero_iff.mp h).symm⟩
  | succ n ih =>
    match bits, h with
    | a :: b :: c :: d :: e :: f :: g :: i :: rest, h =>
      obtain ⟨x, hx⟩ := exists_ofByte a b c d e f g i
      obtain ⟨bs, hlength, hbs⟩ := ih rest (by simp at h; omega)
      exact ⟨x :: bs, by simp [hlength], by simp [hx, hbs]⟩

theorem ofBytes_toBytes {bits : Bits} (h : bits.size = 64) : ofBytes (toBytes bits) = bits := by
  obtain ⟨bs, hlength, hbs⟩ := exists_ofBytes 8 bits.toList (by simpa using h)
  have hbits : ofBytes bs = bits := by rw [ofBytes_eq, hbs, Array.toArray_toList]
  rw [← hbits, toBytes_ofBytes hlength]

@[simp] theorem length_toBytes (bits : Bits) : (toBytes bits).length = 8 := Bytes.length_ofNat _ _

end Bits

/-! ## Tables -/

@[simp] theorem size_pick (table : Array Nat) (bits : Bits) : (pick table bits).size = table.size := by
  simp [pick]

theorem pick_range {n : Nat} {bits : Bits} (h : bits.size = n) : pick (Array.range n) bits = bits := by
  apply Array.ext
  · simp [h]
  · intro i hi hi'
    simp [pick, hi']

/-- A table that undoes another gives the bits back. -/
theorem pick_pick {s t : Array Nat} {n : Nat} {bits : Bits} (hbits : bits.size = n)
    (h : t.toList.map (s[·]?) = (List.range n).map some) : pick t (pick s bits) = bits := by
  have hlookup : ∀ i, (pick s bits).getD i false =
      ((s[i]?).map fun i => bits.getD i false).getD false := by
    intro i
    rw [Array.getD_eq_getD_getElem?, pick, Array.getElem?_map]
  have htable : t.map (s[·]?) = (Array.range n).map some := by
    apply Array.toList_inj.mp
    rw [Array.toList_map, Array.toList_map, Array.toList_range, h]
  calc pick t (pick s bits)
      = t.map fun i => ((s[i]?).map fun i => bits.getD i false).getD false :=
        Array.map_congr_left fun i _ => hlookup i
    _ = (t.map (s[·]?)).map fun o => (o.map fun i => bits.getD i false).getD false := by
        rw [Array.map_map]
        rfl
    _ = pick (Array.range n) bits := by
        rw [htable, Array.map_map]
        rfl
    _ = bits := pick_range hbits

theorem final_initial {bits : Bits} (h : bits.size = 64) : pick final (pick initial bits) = bits :=
  pick_pick h (by decide)

theorem initial_final {bits : Bits} (h : bits.size = 64) : pick initial (pick final bits) = bits :=
  pick_pick h (by decide)

/-! ## Rounds -/

theorem add_add {x y : Bits} (h : x.size ≤ y.size) : add (add x y) y = x := by
  apply Array.ext
  · simp [add]
    omega
  · intro i hi hi'
    simp [add]

@[simp] theorem size_mix (key half : Bits) : (mix key half).size = 32 := size_pick _ _

namespace Halves

/-- Both halves have 32 bits. -/
structure Whole (h : Halves) : Prop where
  left : h.left.size = 32
  right : h.right.size = 32

variable {h : Halves} {bits : Bits} {keys : List Bits}

theorem whole_ofBits (hbits : bits.size = 64) : (ofBits bits).Whole :=
  ⟨by simp [ofBits, hbits], by simp [ofBits, hbits]⟩

theorem toBits_ofBits (hbits : bits.size = 64) : (ofBits bits).toBits = bits := by
  simp [ofBits, toBits, ← hbits]

theorem ofBits_toBits (hw : h.Whole) : ofBits h.toBits = h := by
  obtain ⟨l, r⟩ := h
  have hl : l.size = 32 := hw.left
  have hr : r.size = 32 := hw.right
  have hleft : (l ++ r).extract 0 32 = l := by
    rw [← hl, Array.extract_append_left, Array.extract_size]
  have hright : (l ++ r).extract 32 64 = r := by
    rw [← hl, show 64 = l.size + r.size by omega, Array.extract_append_right, Array.extract_size]
  exact Halves.mk.injEq .. ▸ ⟨hleft, hright⟩

theorem Whole.size_toBits (hw : h.Whole) : h.toBits.size = 64 := by
  rw [toBits, Array.size_append, hw.left, hw.right]

theorem swap_swap (h : Halves) : h.swap.swap = h := rfl

theorem Whole.swap (hw : h.Whole) : h.swap.Whole := ⟨hw.right, hw.left⟩

theorem Whole.round (hw : h.Whole) (key : Bits) : (h.round key).Whole :=
  ⟨hw.right, by simp [Halves.round, add, hw.left]⟩

theorem Whole.unround (hw : h.Whole) (key : Bits) : (h.unround key).Whole :=
  ⟨by simp [Halves.unround, add, hw.right], hw.left⟩

theorem unround_round (hw : h.Whole) (key : Bits) : unround key (h.round key) = h := by
  rw [unround, round, add_add (by rw [hw.left, size_mix])]

theorem round_unround (hw : h.Whole) (key : Bits) : (unround key h).round key = h := by
  rw [unround, round, add_add (by rw [hw.right, size_mix])]

theorem Whole.foldl_round (hw : h.Whole) : (keys.foldl Halves.round h).Whole := by
  induction keys generalizing h with
  | nil => exact hw
  | cons key keys ih => exact ih (hw.round key)

theorem Whole.foldr_unround (hw : h.Whole) :
    (keys.foldr Halves.unround h).Whole := by
  induction keys with
  | nil => exact hw
  | cons key keys ih => exact ih.unround key

theorem foldr_unround_foldl_round (hw : h.Whole) :
    keys.foldr unround (keys.foldl round h) = h := by
  induction keys generalizing h with
  | nil => rfl
  | cons key keys ih => rw [List.foldl_cons, List.foldr_cons, ih (hw.round key), unround_round hw]

theorem foldl_round_foldr_unround (hw : h.Whole) :
    keys.foldl round (keys.foldr unround h) = h := by
  induction keys with
  | nil => rfl
  | cons key keys ih =>
    rw [List.foldr_cons, List.foldl_cons, round_unround hw.foldr_unround, ih]

end Halves

/-! ## Blocks -/

/-- The halves that a block enters the rounds with. -/
def enter (block : Bytes) : Halves := .ofBits (pick initial (Bits.ofBytes block))

/-- The block that halves leave the rounds as. -/
def leave (h : Halves) : Bytes := Bits.toBytes (pick final h.toBits)

theorem encrypt_eq (keys : List Bits) (block : Bytes) :
    encrypt keys block = leave (keys.foldl Halves.round (enter block)).swap := rfl

theorem decrypt_eq (keys : List Bits) (block : Bytes) :
    decrypt keys block = leave (keys.foldr Halves.unround (enter block).swap) := rfl

theorem whole_enter (block : Bytes) : (enter block).Whole := Halves.whole_ofBits (size_pick _ _)

theorem enter_leave {h : Halves} (hw : h.Whole) : enter (leave h) = h := by
  rw [enter, leave, Bits.ofBytes_toBytes (size_pick _ _), initial_final hw.size_toBits,
    Halves.ofBits_toBits hw]

theorem leave_enter {block : Bytes} (h : block.length = 8) : leave (enter block) = block := by
  have hsize : (Bits.ofBytes block).size = 64 := by rw [Bits.size_ofBytes, h]
  rw [enter, leave, Halves.toBits_ofBits (size_pick _ _), final_initial hsize,
    Bits.toBytes_ofBytes h]

@[simp] theorem length_encrypt (keys : List Bits) (block : Bytes) :
    (encrypt keys block).length = 8 := Bits.length_toBytes _

@[simp] theorem length_decrypt (keys : List Bits) (block : Bytes) :
    (decrypt keys block).length = 8 := Bits.length_toBytes _

variable {keys : List Bits} {block : Bytes}

theorem decrypt_encrypt (h : block.length = 8) : decrypt keys (encrypt keys block) = block := by
  have hw := whole_enter block
  rw [encrypt_eq, decrypt_eq, enter_leave hw.foldl_round.swap, Halves.swap_swap,
    Halves.foldr_unround_foldl_round hw, leave_enter h]

theorem encrypt_decrypt (h : block.length = 8) : encrypt keys (decrypt keys block) = block := by
  have hw := (whole_enter block).swap
  rw [encrypt_eq, decrypt_eq, enter_leave hw.foldr_unround, Halves.foldl_round_foldr_unround hw,
    Halves.swap_swap, leave_enter h]


end TlsClient.Des
