import TlsClient.Cipher.Protection
import TlsClient.Proofs.Cipher.Chaining
import TlsClient.Proofs.Secrets

/-!
# Protected records are opened again

The padding of a record shows where the data ends (`split_padded`), so that a record that was protected
is opened to itself by the same keys, and both sides are left with the same initialisation vector
(`unprotect_protect`).  By induction this holds of any records, one after another under consecutive
numbers (`sealed_reopened`).
-/

namespace TlsClient.Protection

/-! ## One record -/

section Padding

variable {blockLength count n : Nat}

/-- What padding bytes say is how many they are. -/
theorem toNat_ofNat_pred (hpos : 1 ≤ count) (hle : count ≤ 256) :
    (UInt8.ofNat (count - 1)).toNat + 1 = count := by
  rw [UInt8.toNat_ofNat', Nat.mod_eq_of_lt (by omega), Nat.sub_add_cancel hpos]

/-- How many bytes the padding has. -/
theorem length_padding (blockLength n : Nat) :
    (padding blockLength n).length = blockLength - n % blockLength := List.length_replicate

theorem length_padded (h : 0 < blockLength) : (n + (padding blockLength n).length) % blockLength = 0 := by
  have hlt := Nat.mod_lt n h
  have hn := Nat.div_add_mod n blockLength
  rw [length_padding, show n + (blockLength - n % blockLength) =
    blockLength * (n / blockLength + 1) by rw [Nat.mul_add]; omega, Nat.mul_mod_right]

/-- The padding is a byte and as many copies of it as it says. -/
theorem exists_padding (hpos : 0 < blockLength) (hle : blockLength ≤ 256) (n : Nat) :
    ∃ last : UInt8, padding blockLength n = List.replicate (last.toNat + 1) last := by
  have hlt := Nat.mod_lt n hpos
  refine ⟨UInt8.ofNat (blockLength - n % blockLength - 1), ?_⟩
  rw [toNat_ofNat_pred (by omega) (by omega)]
  rfl

/-- What was padded is split where it was put together. -/
theorem split_padded {data code : Bytes} (hcode : code.length = macLength) (last : UInt8) :
    split (data ++ code ++ List.replicate (last.toNat + 1) last) = (data, code, true) := by
  have hlast : (data ++ code ++ List.replicate (last.toNat + 1) last).getLastD 0 = last := by
    rw [List.replicate_succ', ← List.append_assoc, List.getLastD_concat]
  have hlength : (data ++ code ++ List.replicate (last.toNat + 1) last).length =
      data.length + macLength + (last.toNat + 1) := by
    rw [List.length_append, List.length_append, List.length_replicate, hcode]
  have hpadding : (data ++ code ++ List.replicate (last.toNat + 1) last).drop
      (data.length + macLength) = List.replicate (last.toNat + 1) last := by
    rw [← hcode, ← List.length_append, List.drop_left]
  have hdata : (data ++ code ++ List.replicate (last.toNat + 1) last).take data.length = data := by
    rw [List.append_assoc, List.take_left]
  have hrest : ((data ++ code ++ List.replicate (last.toNat + 1) last).drop data.length).take
      macLength = code := by
    rw [List.append_assoc, List.drop_left, ← hcode, List.take_left]
  have hgood : (decide (last.toNat + 1 + macLength ≤ data.length + macLength + (last.toNat + 1))
      && (List.replicate (last.toNat + 1) last).all (· == last)) = true := by
    rw [Bool.and_eq_true, decide_eq_true_iff]
    exact ⟨by omega, by simp⟩
  unfold split
  simp only [hlast, hlength, Nat.add_sub_cancel, hpadding, hgood, if_true, hdata, hrest]

end Padding

variable {p q : Protection} {seq : UInt64} {r wire : Record}

@[simp] theorem length_mac (p : Protection) (seq : UInt64) (typ : ContentType)
    (version : ProtocolVersion) (data : Bytes) : (p.mac seq typ version data).length = macLength :=
  Hash.length_hmacSha1 _ _

/-- Data with its code and its padding. -/
def text (p : Protection) (seq : UInt64) (r : Record) (last : UInt8) : Bytes :=
  r.payload ++ p.mac seq r.typ r.version r.payload ++ List.replicate (last.toNat + 1) last

theorem length_text (p : Protection) (seq : UInt64) (r : Record) (last : UInt8) :
    (p.text seq r last).length = r.payload.length + macLength + (last.toNat + 1) := by
  rw [text, List.length_append, List.length_append, length_mac, List.length_replicate]

/-- Data with its code is completed to whole blocks. -/
theorem exists_text (p : Protection) (seq : UInt64) (r : Record) : ∃ last : UInt8,
    padding p.key.blockLength (r.payload ++ p.mac seq r.typ r.version r.payload).length
      = List.replicate (last.toNat + 1) last ∧
    (p.text seq r last).length % p.key.blockLength = 0 ∧ last.toNat < p.key.blockLength := by
  have hpos := p.key.blockLength_pos
  have hle := p.key.blockLength_le
  obtain ⟨last, hlast⟩ := exists_padding hpos (by omega : p.key.blockLength ≤ 256)
    (r.payload ++ p.mac seq r.typ r.version r.payload).length
  refine ⟨last, hlast, ?_, ?_⟩
  · rw [text, ← hlast, List.length_append, length_padded hpos]
  · have hlength := congrArg List.length hlast
    rw [length_padding, List.length_replicate] at hlength
    omega

/-- What protecting a record gives: a record of the same kind whose payload is the encrypted text, and
the next initialisation vector. -/
theorem protect_eq (p : Protection) (seq : UInt64) (hr : r.payload.length ≤ Record.maxFragment)
    {last : UInt8} (hlast : padding p.key.blockLength
      (r.payload ++ p.mac seq r.typ r.version r.payload).length = List.replicate (last.toNat + 1) last) :
    p.protect seq r = (.ok { r with payload := (Cbc.encrypt p.key p.iv (p.text seq r last)).1 },
      { p with iv := (Cbc.encrypt p.key p.iv (p.text seq r last)).2 }) := by
  rw [protect, if_neg (Nat.not_lt.mpr hr), text, ← hlast]

/-- A record that is too long is not sealed. -/
theorem length_of_protect (h : p.protect seq r = (.ok wire, q)) :
    r.payload.length ≤ Record.maxFragment := by
  unfold protect at h
  split at h
  · cases h
  · next hr => exact Nat.not_lt.mp hr

/-- Sealing leaves the key of the authentication code as it was. -/
theorem macKey_of_protect (h : p.protect seq r = (.ok wire, q)) : q.macKey = p.macKey := by
  unfold protect at h
  split at h
  · cases h
  · cases h
    rfl

/-- A record with data that is authentic: it is made of whole blocks, and its text is split into the data and
their code. -/
structure Authentic (p : Protection) (seq : UInt64) (wire : Record) (data : Bytes) : Prop where
  length : macLength + 1 ≤ wire.payload.length
  whole : wire.payload.length % p.key.blockLength = 0
  parts : split (Cbc.decrypt p.key p.iv wire.payload).1
    = (data, p.mac seq wire.typ wire.version data, true)

/-- Under another number the same record is refused, unless its data has the same code there. -/
theorem Authentic.unprotect_under {data : Bytes} (h : Authentic p seq wire data) (n : UInt64) :
    p.unprotect n wire =
      (if p.mac n wire.typ wire.version data = p.mac seq wire.typ wire.version data then
        if Record.maxFragment < data.length then .error .oversizedRecord
        else .ok { wire with payload := data }
      else .error .cannotDecrypt,
        { p with iv := (Cbc.decrypt p.key p.iv wire.payload).2 }) := by
  have hlength := h.length
  have hwhole := h.whole
  unfold Protection.unprotect
  rw [if_neg (by omega)]
  simp only [h.parts, true_and]
  by_cases hmac : p.mac n wire.typ wire.version data = p.mac seq wire.typ wire.version data
  · rw [if_neg (not_not_intro hmac), if_pos hmac]
  · rw [if_pos hmac, if_neg hmac]

/-- Only the length of authentic data can still be wrong. -/
theorem Authentic.unprotect {data : Bytes} (h : Authentic p seq wire data) :
    p.unprotect seq wire =
      (if Record.maxFragment < data.length then .error .oversizedRecord
        else .ok { wire with payload := data },
        { p with iv := (Cbc.decrypt p.key p.iv wire.payload).2 }) := by
  rw [h.unprotect_under seq, if_pos rfl]

/-- Opening a record changes its payload and nothing else. -/
theorem unprotect_version {q : Protection} (h : p.unprotect seq wire = (.ok r, q)) :
    r.version = wire.version := by
  unfold Protection.unprotect at h
  dsimp only at h
  split at h
  · cases h
  · obtain ⟨hresult, -⟩ := Prod.mk.inj h
    split at hresult
    · cases hresult
    · split at hresult <;> cases hresult
      rfl

/-- What is sealed is authentic, however long it is. -/
theorem authentic_text (seq : UInt64) (hiv : p.iv.length = p.key.blockLength) {last : UInt8}
    (hwhole : (p.text seq r last).length % p.key.blockLength = 0) :
    Authentic p seq { r with payload := (Cbc.encrypt p.key p.iv (p.text seq r last)).1 } r.payload := by
  have hencrypted : (Cbc.encrypt p.key p.iv (p.text seq r last)).1.length = _ :=
    Cbc.length_encrypt hwhole
  refine ⟨?_, hencrypted ▸ hwhole, ?_⟩
  · show _ ≤ (Cbc.encrypt p.key p.iv (p.text seq r last)).1.length
    rw [hencrypted, length_text]
    omega
  · show split (Cbc.decrypt p.key p.iv (Cbc.encrypt p.key p.iv (p.text seq r last)).1).1 = _
    rw [Cbc.decrypt_encrypt hiv hwhole]
    exact split_padded (length_mac _ _ _ _ _) last

theorem length_sealed {last : UInt8} (hwhole : (p.text seq r last).length % p.key.blockLength = 0)
    (hlast : last.toNat < p.key.blockLength) :
    (Cbc.encrypt p.key p.iv (p.text seq r last)).1.length ≤ r.payload.length + macLength + 16 := by
  have hle := p.key.blockLength_le
  rw [Cbc.length_encrypt hwhole, length_text]
  omega

/-- Any data can be sealed, also by a server that does not mind how long it is. -/
theorem exists_authentic (seq : UInt64) (r : Record) (hiv : p.iv.length = p.key.blockLength) :
    ∃ payload, Authentic p seq { r with payload } r.payload ∧
      payload.length ≤ r.payload.length + macLength + 16 := by
  obtain ⟨last, -, hwhole, hlast⟩ := exists_text p seq r
  exact ⟨_, authentic_text seq hiv hwhole, length_sealed hwhole hlast⟩

/-- How a protected record stands to the record and the keys that it was made with. -/
structure Reopened (p : Protection) (seq : UInt64) (r wire : Record) (q : Protection) : Prop where
  opens : p.unprotect seq wire = (.ok r, q)
  key : q.key = p.key
  iv : q.iv.length = q.key.blockLength
  whole : wire.payload.length % p.key.blockLength = 0
  bounded : wire.payload.length ≤ Record.maxFragment + macLength + 16

theorem unprotect_protect (seq : UInt64) (hiv : p.iv.length = p.key.blockLength)
    (hr : r.payload.length ≤ Record.maxFragment) :
    ∃ wire q, p.protect seq r = (.ok wire, q) ∧ Reopened p seq r wire q := by
  obtain ⟨last, hpadding, hwhole, hlast⟩ := exists_text p seq r
  have hencrypted : (Cbc.encrypt p.key p.iv (p.text seq r last)).1.length = _ :=
    Cbc.length_encrypt hwhole
  refine ⟨_, _, protect_eq p seq hr hpadding, ?_, rfl, Cbc.length_encrypt_iv hiv, hencrypted ▸ hwhole,
    Nat.le_trans (length_sealed hwhole hlast) (by omega)⟩
  rw [(authentic_text seq hiv hwhole).unprotect, if_neg (Nat.not_lt.mpr hr),
    Cbc.decrypt_encrypt hiv hwhole]

/-- A record that is opened under another number than it was sealed under is refused, unless its data has
the same code there.  The initialisation vectors stay in step all the same. -/
theorem unprotect_renumbered (hiv : p.iv.length = p.key.blockLength)
    (h : p.protect seq r = (.ok wire, q)) (n : UInt64) :
    p.unprotect n wire =
      (if p.mac n r.typ r.version r.payload = p.mac seq r.typ r.version r.payload then .ok r
        else .error .cannotDecrypt, q) := by
  have hr := length_of_protect h
  obtain ⟨last, hpadding, hwhole, -⟩ := exists_text p seq r
  rw [protect_eq p seq hr hpadding] at h
  cases h
  rw [(authentic_text seq hiv hwhole).unprotect_under n, if_neg (Nat.not_lt.mpr hr),
    Cbc.decrypt_encrypt hiv hwhole]

/-! ## Records one after another -/

/-- What happens to records that are taken under consecutive numbers: each result, and the protection
that is left. -/
def run (f : Protection → UInt64 → Record → Except TlsError Record × Protection) :
    Protection → UInt64 → List Record → List (Except TlsError Record × Protection)
  | _, _, [] => []
  | p, seq, r :: rs => f p seq r :: run f (f p seq r).2 (seq + 1) rs

/-- How sealed records stand to the records and the keys that they were made with. -/
structure Reopens (p : Protection) (seq : UInt64) (rs sealed : List Record) : Prop where
  seals : (run protect p seq rs).map Prod.fst = sealed.map .ok
  opens : (run unprotect p seq sealed).map Prod.fst = rs.map .ok
  /-- Both sides are left with the same protection after each record. -/
  protection : (run protect p seq rs).map Prod.snd = (run unprotect p seq sealed).map Prod.snd
  whole : ∀ wire ∈ sealed, wire.payload.length % p.key.blockLength = 0
  bounded : ∀ wire ∈ sealed, wire.payload.length ≤ Record.maxFragment + macLength + 16

theorem exists_reopens (hiv : p.iv.length = p.key.blockLength) {rs : List Record}
    (hrs : ∀ r ∈ rs, r.payload.length ≤ Record.maxFragment) (seq : UInt64) :
    ∃ sealed, Reopens p seq rs sealed := by
  induction rs generalizing p seq with
  | nil => exact ⟨[], rfl, rfl, rfl, by simp, by simp⟩
  | cons r rs ih =>
    obtain ⟨hr, hrs⟩ := List.forall_mem_cons.mp hrs
    obtain ⟨wire, q, hprotect, h⟩ := unprotect_protect seq hiv hr
    obtain ⟨sealed, hs⟩ := ih h.iv hrs (seq + 1)
    refine ⟨wire :: sealed, ?_, ?_, ?_, ?_, ?_⟩
    · simp only [run, List.map_cons, hprotect, hs.seals]
    · simp only [run, List.map_cons, h.opens, hs.opens]
    · simp only [run, List.map_cons, hprotect, h.opens, hs.protection]
    · exact List.forall_mem_cons.mpr ⟨h.whole, h.key ▸ hs.whole⟩
    · exact List.forall_mem_cons.mpr ⟨h.bounded, hs.bounded⟩

/-- Keys that are put in place work on the blocks of their cipher, from the initialisation vector they came
with. -/
theorem of_ofKeys {bulk : BulkCipher} {macKey key iv : Bytes} (h : ofKeys bulk macKey key iv = .ok p) :
    p.key.blockLength = bulk.blockLength ∧ p.iv = iv := by
  unfold ofKeys at h
  split at h
  · next k hk =>
    cases h
    exact ⟨BlockKey.blockLength_of_ofBytes? hk, rfl⟩
  · cases h

/-- Records that are sealed one after another, under consecutive numbers from any start, are opened to
themselves by the same keys. -/
theorem sealed_reopened (bulk : BulkCipher) {macKey key iv : Bytes}
    (hkey : key.length = bulk.keyLength) (hiv : iv.length = bulk.blockLength) (seq : UInt64)
    {rs : List Record} (hrs : ∀ r ∈ rs, r.payload.length ≤ Record.maxFragment) :
    ∃ p sealed, ofKeys bulk macKey key iv = .ok p ∧ p.key.blockLength = bulk.blockLength ∧
      Reopens p seq rs sealed := by
  obtain ⟨p, hp⟩ := ofKeys_ok hkey macKey iv
  obtain ⟨hblock, hivp⟩ := of_ofKeys hp
  obtain ⟨sealed, hs⟩ := exists_reopens (by rw [hivp, hiv, hblock]) hrs seq
  exact ⟨p, sealed, hp, hblock, hs⟩

theorem sealed_reopened_twice :
    (List.replicate 24 2 : Bytes).length = BulkCipher.tripleDes.keyLength ∧
    (List.replicate 8 3 : Bytes).length = BulkCipher.tripleDes.blockLength ∧
    ∃ p sealed, ofKeys .tripleDes (List.replicate 20 1) (List.replicate 24 2) (List.replicate 8 3) =
        .ok p ∧ p.key.blockLength = BulkCipher.tripleDes.blockLength ∧
      Reopens p 7 [⟨.applicationData, .tls1, [104, 105]⟩, ⟨.alert, .tls1, [1, 0]⟩] sealed :=
  ⟨by decide, by decide, sealed_reopened .tripleDes (by decide) (by decide) 7 (by decide)⟩

end TlsClient.Protection
