import TlsClient.Proofs.Cipher.Reopening

/-!
# What is authentic

A protected record is genuine if it is made of whole blocks and decrypts to some data, the code of that data,
and padding: one to 256 bytes, each of them the number of the others (`Protection.Genuine`).  Opening a record
finds just that out, whatever its length and its padding (`genuine_iff`): it fails with the same error for
every record that is not genuine, and for no other (`unprotect_cannotDecrypt_iff`).
-/

namespace TlsClient.Protection

variable {p : Protection} {seq : UInt64} {wire : Record} {plain data code : Bytes}

/-- A record with data that is authentic: it is made of whole blocks, and it decrypts to the data, their code
and the padding. -/
structure Genuine (p : Protection) (seq : UInt64) (wire : Record) (data : Bytes) : Prop where
  length : macLength + 1 ≤ wire.payload.length
  whole : wire.payload.length % p.key.blockLength = 0
  text : ∃ last : UInt8, (Cbc.decrypt p.key p.iv wire.payload).1 =
    data ++ p.mac seq wire.typ wire.version data ++ List.replicate (last.toNat + 1) last

/-- A text is split in good order just if it ends with padding, and then where that begins. -/
theorem split_eq_iff (hcode : code.length = macLength) : split plain = (data, code, true) ↔
    ∃ last : UInt8, plain = data ++ code ++ List.replicate (last.toNat + 1) last := by
  constructor
  · intro h
    set last := plain.getLastD 0 with hlast
    set count := last.toNat + 1 with hcount
    have hgood : (decide (count + macLength ≤ plain.length) &&
        (plain.drop (plain.length - count)).all (· == last)) = true :=
      congrArg (fun x => x.2.2) h
    obtain ⟨hroom, hpadding⟩ := Bool.and_eq_true_iff.mp hgood
    have hroom : count + macLength ≤ plain.length := of_decide_eq_true hroom
    set length := plain.length - count - macLength with hlength
    have hparts : split plain = (plain.take length, (plain.drop length).take macLength, true) := by
      unfold split
      simp only [← hlast, ← hcount, hgood, if_true, ← hlength]
    rw [hparts] at h
    obtain ⟨hdata, hrest⟩ := Prod.mk.inj h
    obtain ⟨hmac, -⟩ := Prod.mk.inj hrest
    have htail : plain.drop (plain.length - count) = List.replicate count last := by
      refine List.eq_replicate_of_mem (a := last) (fun b hb => ?_) |>.trans ?_
      · exact eq_of_beq (List.all_eq_true.mp hpadding b hb)
      · rw [List.length_drop]
        congr 1
        omega
    refine ⟨last, ?_⟩
    rw [← hdata, ← hmac, ← htail, List.append_assoc]
    have hdrop : plain.drop (plain.length - count) = (plain.drop length).drop macLength := by
      rw [List.drop_drop]
      congr 1
      omega
    rw [hdrop, List.take_append_drop, List.take_append_drop]
  · rintro ⟨last, rfl⟩
    exact split_padded hcode last

/-- A record is genuine just if it can be split in good order and its code is right. -/
theorem genuine_iff : p.Genuine seq wire data ↔ p.Authentic seq wire data := by
  constructor
  · intro h
    exact ⟨h.length, h.whole, (split_eq_iff (length_mac _ _ _ _ _)).mpr h.text⟩
  · intro h
    exact ⟨h.length, h.whole, (split_eq_iff (length_mac _ _ _ _ _)).mp h.parts⟩

/-- Opening a record fails for want of authenticity just if there is no data that is authentic: whatever is
wrong with it, the error is the same. -/
theorem unprotect_cannotDecrypt_iff :
    (p.unprotect seq wire).1 = .error .cannotDecrypt ↔ ∀ data, ¬ p.Genuine seq wire data := by
  constructor
  · intro h data hgenuine
    rw [(genuine_iff.mp hgenuine).unprotect] at h
    dsimp only at h
    split at h <;> cases h
  · intro h
    unfold Protection.unprotect
    dsimp only
    split
    · rfl
    · next hshape =>
      rw [not_or, not_or, not_not, Nat.not_lt] at hshape
      obtain ⟨-, hwhole, hlength⟩ := hshape
      rcases hparts : split (Cbc.decrypt p.key p.iv wire.payload).1 with ⟨data, code, good⟩
      dsimp only
      rw [if_pos]
      rintro ⟨hgood, hmac⟩
      subst hmac
      obtain rfl : good = true := hgood
      exact h data (genuine_iff.mpr ⟨hlength, hwhole, hparts⟩)

end TlsClient.Protection
