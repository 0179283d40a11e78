import TlsClient.Proofs.Checked
import TlsClient.Proofs.Cipher.Authenticity

/-!
# How a record is opened

A record is opened to its data exactly if it is genuine and not too long, whatever its padding, and only a
genuine record is too long (`Protection.decides`).  The padding says how much is cut off, and that
number comes from the other side: nothing is cut off beyond what is there, for a wrong padding just as
for a right one (`Protection.opened?_eq`).
-/

namespace TlsClient

/-! ## Only blocks are decrypted -/

/-- Decrypts a block, if it has the length that the cipher takes. -/
def BlockKey.decrypt? (key : BlockKey) (block : Bytes) : Option Bytes :=
  if block.length = key.blockLength then some (key.decrypt block) else none

namespace Cbc

/-- `decryptBlocks` for a cipher that can refuse a block. -/
def decryptBlocks? (d : Bytes → Option Bytes) : (previous : Bytes) → List Bytes → Option (List Bytes)
  | _, [] => some []
  | previous, c :: cs => do
    let block ← d c
    let blocks ← decryptBlocks? d c cs
    return Bytes.xor block previous :: blocks

/-- Decrypts a text that is cut into pieces of the length of the initialisation vector, if it can be cut
and the cipher takes them all. -/
def decrypt? (key : BlockKey) (iv text : Bytes) : Option (Bytes × Bytes) :=
  if iv.length = 0 then none
  else do
    let cs := Bytes.chunks iv.length text
    let blocks ← decryptBlocks? key.decrypt? iv cs
    return (blocks.flatten, cs.getLastD iv)

variable {key : BlockKey} {previous iv text : Bytes} {blocks : List Bytes}

theorem decryptBlocks?_eq (h : ∀ c ∈ blocks, c.length = key.blockLength) :
    decryptBlocks? key.decrypt? previous blocks =
      some (decryptBlocks key.decrypt previous blocks) := by
  induction blocks generalizing previous with
  | nil => rfl
  | cons c cs ih =>
    obtain ⟨hc, hcs⟩ := List.forall_mem_cons.mp h
    rw [decryptBlocks?, BlockKey.decrypt?, if_pos hc, ih hcs]
    rfl

/-- Whole blocks are all taken. -/
theorem decrypt?_eq (hiv : iv.length = key.blockLength) (htext : text.length % key.blockLength = 0) :
    decrypt? key iv text = some (decrypt key iv text) := by
  have hblocks : decryptBlocks? key.decrypt? iv (Bytes.chunks key.blockLength text) = _ :=
    decryptBlocks?_eq fun c hc => Bytes.length_of_mem_chunks htext hc
  simp only [decrypt?, hiv, if_neg key.blockLength_pos.ne', hblocks]
  rfl

end Cbc

namespace Protection

variable {p : Protection} {seq : UInt64} {wire r : Record} {plain data : Bytes}

/-! ## Nothing is cut off beyond what is there -/

/-- How long the padding says it is, and whether it is right, by operations that can fail. -/
def padding? (plain : Bytes) : Option (Nat × Bool) := do
  let last ← plain.getLast?
  let count := last.toNat + 1
  if count + macLength ≤ plain.length then
    let start ← Number.sub? plain.length count
    let bytes ← plain.slice? start plain.length
    return (count, bytes.all (· == last))
  else return (count, false)

/-- What stands before some padding: the data and their code, by operations that can fail. -/
def unpadded? (plain : Bytes) (count : Nat) : Option (Bytes × Bytes) := do
  let rest ← Number.sub? plain.length count
  let length ← Number.sub? rest macLength
  let data ← plain.slice? 0 length
  let code ← plain.slice? length (length + macLength)
  return (data, code)

/-- Opens a protected record, by operations that can fail. -/
def opened? (p : Protection) (seq : UInt64) (r : Record) :
    Option (Except TlsError Record × Protection) :=
  if r.payload.length = 0 then some (.error .cannotDecrypt, p)
  else do
    let rest ← Number.mod? r.payload.length p.key.blockLength
    if rest ≠ 0 ∨ r.payload.length < macLength + 1 then return (.error .cannotDecrypt, p)
    let (plain, iv) ← Cbc.decrypt? p.key p.iv r.payload
    let (count, good) ← padding? plain
    let (data, code) ← unpadded? plain (if good then count else 0)
    let result :=
      if ¬ (good ∧ p.mac seq r.typ r.version data = code) then .error .cannotDecrypt
      else if Record.maxFragment < data.length then .error .oversizedRecord
      else .ok { r with payload := data }
    return (result, { p with iv })

/-- Whether bytes end with right padding that leaves room for the code. -/
def goodPadding (plain : Bytes) : Bool :=
  let last := plain.getLastD 0
  last.toNat + 1 + macLength ≤ plain.length
    && (plain.drop (plain.length - (last.toNat + 1))).all (· == last)

theorem le_of_goodPadding (h : goodPadding plain = true) :
    (plain.getLastD 0).toNat + 1 + macLength ≤ plain.length :=
  of_decide_eq_true (Bool.and_eq_true_iff.mp h).1

theorem padding?_eq (h : plain ≠ []) :
    padding? plain = some ((plain.getLastD 0).toNat + 1, goodPadding plain) := by
  have hlast : plain.getLast? = some (plain.getLastD 0) := by
    rw [List.getLastD_eq_getLast?, List.getLast?_eq_some_getLast h]
    rfl
  unfold padding? goodPadding
  simp only [hlast, Option.bind_eq_bind, Option.bind_some]
  generalize plain.getLastD 0 = last
  by_cases hroom : last.toNat + 1 + macLength ≤ plain.length
  · have htail : (plain.drop (plain.length - (last.toNat + 1))).take
        (plain.length - (plain.length - (last.toNat + 1))) =
        plain.drop (plain.length - (last.toNat + 1)) :=
      List.take_of_length_le (by rw [List.length_drop])
    simp only [Number.sub?_of_le (show last.toNat + 1 ≤ plain.length by omega),
      Bytes.slice?_of_le (Nat.sub_le _ _) (le_refl plain.length), Option.bind_some, htail, hroom,
      decide_true, Bool.true_and]
    rfl
  · simp only [hroom, decide_false, Bool.false_and]
    rfl

theorem unpadded?_eq {count : Nat} (h : count + macLength ≤ plain.length) :
    unpadded? plain count = some (plain.take (plain.length - count - macLength),
      (plain.drop (plain.length - count - macLength)).take macLength) := by
  unfold unpadded?
  simp only [Number.sub?_of_le (show count ≤ plain.length by omega),
    Number.sub?_of_le (show macLength ≤ plain.length - count by omega), Option.bind_eq_bind,
    Option.bind_some, Bytes.slice?_of_le (Nat.zero_le _)
      (show plain.length - count - macLength ≤ plain.length by omega),
    Bytes.slice?_of_le (Nat.le_add_right _ _)
      (show plain.length - count - macLength + macLength ≤ plain.length by omega),
    List.drop_zero, Nat.sub_zero, Nat.add_sub_cancel_left]
  rfl

/-- What is cut off a text that has room for the code leaves room for the code, whatever the padding is. -/
theorem cut_le (h : macLength ≤ plain.length) :
    (if goodPadding plain then (plain.getLastD 0).toNat + 1 else 0) + macLength ≤ plain.length := by
  split
  · next hgood => exact le_of_goodPadding hgood
  · rwa [Nat.zero_add]

/-- Every record is opened without an operation that fails. -/
theorem opened?_eq (hiv : p.iv.length = p.key.blockLength) (seq : UInt64) (wire : Record) :
    p.opened? seq wire = some (p.unprotect seq wire) := by
  unfold opened? Protection.unprotect
  by_cases hempty : wire.payload.length = 0
  · simp only [hempty, true_or, if_true]
  by_cases hshape : wire.payload.length % p.key.blockLength ≠ 0 ∨
      wire.payload.length < macLength + 1
  · simp only [hempty, hshape, Number.mod?_of_pos p.key.blockLength_pos, false_or, if_true, if_false,
      Option.bind_eq_bind, Option.bind_some]
    rfl
  obtain ⟨hwhole, hlength⟩ := not_or.mp hshape
  have hplain : (Cbc.decrypt p.key p.iv wire.payload).1.length = wire.payload.length :=
    Cbc.length_decrypt hiv (not_not.mp hwhole)
  have hroom : macLength ≤ (Cbc.decrypt p.key p.iv wire.payload).1.length := by omega
  have hne : (Cbc.decrypt p.key p.iv wire.payload).1 ≠ [] := by
    intro hnil
    rw [hnil] at hplain
    exact hempty hplain.symm
  simp only [hempty, hshape, Number.mod?_of_pos p.key.blockLength_pos, false_or, if_false,
    Option.bind_eq_bind, Option.bind_some, Cbc.decrypt?_eq hiv (not_not.mp hwhole), padding?_eq hne,
    unpadded?_eq (cut_le hroom)]
  -- what is left are the parts of `split`, spelt out
  rfl

/-! ## What it is opened to -/

/-- Genuine data can only be too long. -/
theorem Genuine.unprotect (h : p.Genuine seq wire data) : (p.unprotect seq wire).1 =
    if Record.maxFragment < data.length then .error .oversizedRecord
    else .ok { wire with payload := data } :=
  congrArg Prod.fst (genuine_iff.mp h).unprotect

/-- A record that comes to anything but the one error is genuine. -/
theorem exists_genuine (h : (p.unprotect seq wire).1 ≠ .error .cannotDecrypt) :
    ∃ data, p.Genuine seq wire data :=
  not_forall_not.mp fun hnone => h (unprotect_cannotDecrypt_iff.mpr hnone)

theorem unprotect_ok_iff : (p.unprotect seq wire).1 = .ok r ↔ ∃ data, p.Genuine seq wire data ∧
    data.length ≤ Record.maxFragment ∧ r = { wire with payload := data } := by
  constructor
  · intro h
    obtain ⟨data, hdata⟩ := exists_genuine fun herror => nomatch herror.symm.trans h
    rw [hdata.unprotect] at h
    split at h
    · cases h
    · next hlength => exact ⟨data, hdata, Nat.not_lt.mp hlength, (Except.ok.inj h).symm⟩
  · rintro ⟨data, hdata, hlength, rfl⟩
    rw [hdata.unprotect, if_neg (Nat.not_lt.mpr hlength)]

theorem unprotect_oversized_iff : (p.unprotect seq wire).1 = .error .oversizedRecord ↔
    ∃ data, p.Genuine seq wire data ∧ Record.maxFragment < data.length := by
  constructor
  · intro h
    obtain ⟨data, hdata⟩ := exists_genuine fun herror => nomatch herror.symm.trans h
    rw [hdata.unprotect] at h
    split at h
    · next hlength => exact ⟨data, hdata, hlength⟩
    · cases h
  · rintro ⟨data, hdata, hlength⟩
    rw [hdata.unprotect, if_pos hlength]

/-- Opening a record leaves the keys, and an initialisation vector that is a block. -/
theorem unprotect_leaves (hiv : p.iv.length = p.key.blockLength) (seq : UInt64) (wire : Record) :
    ∃ iv, iv.length = p.key.blockLength ∧ (p.unprotect seq wire).2 = { p with iv } := by
  unfold Protection.unprotect
  dsimp only
  split
  · exact ⟨p.iv, hiv, rfl⟩
  · next hshape =>
    rw [not_or, not_or, not_not] at hshape
    exact ⟨_, Cbc.length_decrypt_iv hiv hshape.2.1, rfl⟩

/-- So do records that are opened one after another, whatever they are. -/
theorem run_leaves (hiv : p.iv.length = p.key.blockLength) (seq : UInt64) {rs : List Record}
    {q : Protection} (hq : q ∈ (run Protection.unprotect p seq rs).map Prod.snd) :
    ∃ iv, iv.length = p.key.blockLength ∧ q = { p with iv } := by
  induction rs generalizing p seq with
  | nil => cases hq
  | cons r rs ih =>
    obtain ⟨iv, hblock, hleft⟩ := unprotect_leaves hiv seq r
    rcases List.mem_cons.mp hq with rfl | hq
    · exact ⟨iv, hblock, hleft⟩
    · rw [hleft] at hq
      exact ih (p := { p with iv }) hblock (seq + 1) hq

/-- Data with any padding that completes it to whole blocks can be sealed, and is opened again. -/
theorem exists_padded (hiv : p.iv.length = p.key.blockLength) (seq : UInt64) (wire : Record)
    {count : Nat} (hpos : 1 ≤ count) (hle : count ≤ 256) (hdata : data.length ≤ Record.maxFragment)
    (hwhole : (data.length + macLength + count) % p.key.blockLength = 0) :
    ∃ payload, payload.length = data.length + macLength + count ∧
      (Cbc.decrypt p.key p.iv payload).1 = data ++ p.mac seq wire.typ wire.version data ++
        List.replicate count (UInt8.ofNat (count - 1)) ∧
      (p.unprotect seq { wire with payload }).1 = .ok { wire with payload := data } := by
  obtain ⟨last, rfl⟩ : ∃ last : UInt8, count = last.toNat + 1 :=
    ⟨_, (toNat_ofNat_pred hpos hle).symm⟩
  have hlength := length_text p seq { wire with payload := data } last
  have hblocks : (p.text seq { wire with payload := data } last).length % p.key.blockLength = 0 :=
    hlength ▸ hwhole
  refine ⟨(Cbc.encrypt p.key p.iv (p.text seq { wire with payload := data } last)).1,
    (Cbc.length_encrypt hblocks).trans hlength, ?_, ?_⟩
  · rw [Cbc.decrypt_encrypt hiv hblocks, Nat.add_sub_cancel, UInt8.ofNat_toNat]
    rfl
  · rw [(authentic_text (r := { wire with payload := data }) seq hiv hblocks).unprotect,
      if_neg (Nat.not_lt.mpr hdata)]

/-- What a record comes to when it is opened, and that every record comes to something. -/
structure Decides (p : Protection) (seq : UInt64) (wire : Record) : Prop where
  opens : ∀ r, (p.unprotect seq wire).1 = .ok r ↔ ∃ data, p.Genuine seq wire data ∧
    data.length ≤ Record.maxFragment ∧ r = { wire with payload := data }
  oversized : (p.unprotect seq wire).1 = .error .oversizedRecord ↔
    ∃ data, p.Genuine seq wire data ∧ Record.maxFragment < data.length
  refuses : (p.unprotect seq wire).1 = .error .cannotDecrypt ↔ ∀ data, ¬ p.Genuine seq wire data
  /-- What the code covers besides the data. -/
  code : ∀ data, p.mac seq wire.typ wire.version data = Hash.hmacSha1 p.macKey
    (Bytes.ofNat 8 seq.toNat ++ Wire.encode wire.typ ++ Wire.encode wire.version ++
      Bytes.ofNat 2 data.length ++ data)
  /-- There is a record for any padding, not just for the shortest. -/
  padded : p.iv.length = p.key.blockLength → ∀ (data : Bytes) (count : Nat), 1 ≤ count → count ≤ 256 →
    data.length ≤ Record.maxFragment → (data.length + macLength + count) % p.key.blockLength = 0 →
    ∃ payload, payload.length = data.length + macLength + count ∧
      (Cbc.decrypt p.key p.iv payload).1 = data ++ p.mac seq wire.typ wire.version data ++
        List.replicate count (UInt8.ofNat (count - 1)) ∧
      (p.unprotect seq { wire with payload }).1 = .ok { wire with payload := data }
  /-- No operation fails. -/
  inBounds : p.iv.length = p.key.blockLength → p.opened? seq wire = some (p.unprotect seq wire)
  /-- Nor does one for the records that follow: each is opened with the same keys and from a block. -/
  leaves : p.iv.length = p.key.blockLength → ∀ (rs : List Record),
    ∀ q ∈ (run Protection.unprotect p seq rs).map Prod.snd,
      ∃ iv, iv.length = p.key.blockLength ∧ q = { p with iv }

/-- What a record comes to follows from what it decrypts to, for any keys, number and header. -/
theorem decides (p : Protection) (seq : UInt64) (wire : Record) : p.Decides seq wire where
  opens _ := unprotect_ok_iff
  oversized := unprotect_oversized_iff
  refuses := unprotect_cannotDecrypt_iff
  code data := by rw [mac, Encoder.vector, List.append_assoc _ _ data]
  padded hiv _ _ hpos hle hdata hwhole := exists_padded hiv seq wire hpos hle hdata hwhole
  inBounds hiv := opened?_eq hiv seq wire
  leaves hiv _ _ hq := run_leaves hiv seq hq

end Protection

end TlsClient
