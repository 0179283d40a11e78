import TlsClient.Proofs.Record.Deframing

/-!
# When it is settled what a record is

The bytes that have arrived say what the record in front of them is, or that it cannot be one, or not enough
yet.  Only the last can change when more bytes arrive: what was read is read again, and takes as many bytes,
and what was refused is refused again (`decode_settles`).  The length is judged before the version and both before the
payload, so not enough is there just as long as the header is not there as a whole, or is one that can be
right with fewer bytes behind it than it announces.
-/

namespace TlsClient

namespace Record

variable {bs : Bytes}

/-- The header is what is missing as long as there are fewer bytes than it has. -/
theorem decode_eq_tooShortForHeader : decode bs = .error .tooShortForHeader ↔ bs.length < headerLength := by
  constructor
  · intro h
    have hjudged := judged_decode bs
    rw [h] at hjudged
    cases hjudged with
    | short hshort => exact hshort
  · exact decode_short

/-- The header of a record that can be right, byte by byte. -/
theorem header_tls1 (t : ContentType) {n : Nat} (h : n < 256 ^ 2) :
    ∃ l₁ l₂, Bytes.toNat [l₁, l₂] = n ∧ header t .tls1 n = [t.code, 3, 1, l₁, l₂] := by
  obtain ⟨l₁, l₂, hl⟩ := List.length_eq_two.mp (Bytes.length_ofNat 2 n)
  refine ⟨l₁, l₂, by rw [← hl, Bytes.toNat_ofNat, Nat.mod_eq_of_lt h], ?_⟩
  rw [header, hl, ContentType.encode_eq]
  rfl

/-- The payload is what is missing behind a header that can be right and announces more than there is. -/
theorem decode_eq_tooShortForLength : decode bs = .error .tooShortForLength ↔
    ∃ t l₁ l₂ part, bs = t :: 3 :: 1 :: l₁ :: l₂ :: part ∧ Bytes.toNat [l₁, l₂] ≤ maxPayload ∧
      part.length < Bytes.toNat [l₁, l₂] := by
  constructor
  · intro h
    have hjudged := judged_decode bs
    rw [h] at hjudged
    cases hjudged with
    | incomplete t hn hpart =>
      obtain ⟨l₁, l₂, rfl, hheader⟩ := header_tls1 t (lt_of_le_maxPayload hn)
      exact ⟨t.code, l₁, l₂, _, by rw [hheader]; rfl, hn, hpart⟩
  · rintro ⟨t, l₁, l₂, part, rfl, hmax, hpart⟩
    rw [decode_cons, if_neg (Nat.not_lt.mpr hmax), if_neg (by decide), if_pos hpart]

/-- As long as it is not known what some bytes are, it is their number that says what is missing. -/
theorem decode_of_undecided (h : Undecided (decode bs)) : decode bs =
    .error (if bs.length < headerLength then .tooShortForHeader else .tooShortForLength) := by
  split
  · next hshort => exact decode_short hshort
  · next hlong =>
    match hx : decode bs, h with
    | .error .tooShortForHeader, _ => exact absurd (decode_eq_tooShortForHeader.mp hx) hlong
    | .error .tooShortForLength, _ => rfl

/-- What is settled by some bytes, whatever comes behind them, and what is not. -/
structure Settles (bs : Bytes) : Prop where
  /-- A record that was read is read again, and takes as many bytes. -/
  read : ∀ r rest, decode bs = .ok (r, rest) → ∃ used ≤ bs.length, rest = bs.drop used ∧
    ∀ more, decode (bs ++ more) = .ok (r, (bs ++ more).drop used)
  /-- What was refused is refused again. -/
  refused : ∀ e ∈ [RecordError.tooLarge, .unknownVersion], decode bs = .error e →
    ∀ more, decode (bs ++ more) = .error e
  headerMissing : decode bs = .error .tooShortForHeader ↔ bs.length < 5
  payloadMissing : decode bs = .error .tooShortForLength ↔
    ∃ t l₁ l₂ part, bs = t :: 3 :: 1 :: l₁ :: l₂ :: part ∧ Bytes.toNat [l₁, l₂] ≤ 18432 ∧
      part.length < Bytes.toNat [l₁, l₂]
  /-- In front of the bytes a record is read as it was written. -/
  behind : ∀ r : Record, r.version = .tls1 → r.payload.length ≤ 18432 → decode (r.encode ++ bs) = .ok (r, bs)
  /-- If the bytes are the beginning of a record and not all of it, no record is read. -/
  beginning : ∀ r : Record, r.version = .tls1 → r.payload.length ≤ 18432 → bs <+: r.encode → bs ≠ r.encode →
    decode bs = .error (if bs.length < 5 then .tooShortForHeader else .tooShortForLength)

theorem decode_settles (bs : Bytes) : Settles bs where
  read r rest h := by
    have hdecided : ¬ Undecided (decode bs) := by rw [h]; exact id
    obtain ⟨rfl, -⟩ := eq_of_decode h
    refine ⟨r.encode.length, by simp, List.drop_left.symm, fun more => ?_⟩
    rw [decode_append hdecided, h, List.append_assoc, List.drop_left]
    rfl
  refused e he h more := by
    have hdecided : ¬ Undecided (decode bs) := by
      rw [h]
      rcases List.mem_pair.mp he with rfl | rfl <;> exact id
    rw [decode_append hdecided, h]
    rfl
  headerMissing := decode_eq_tooShortForHeader
  payloadMissing := decode_eq_tooShortForLength
  behind r hversion hlength := decode_encode hversion hlength bs
  beginning r hversion hlength hfront hne := by
    obtain ⟨more, hmore⟩ := hfront
    have hrest : more ≠ [] := by
      rintro rfl
      exact hne (by rw [← hmore, List.append_nil])
    exact decode_of_undecided (undecided_of_beginning ⟨hversion, hlength⟩ hrest hmore.symm)

/-- The length is judged first, the version next, and the payload that is not there last. -/
example : decode [22, 3, 3, 72, 1] = .error .tooLarge ∧ decode [22, 3, 3, 72, 0] = .error .unknownVersion ∧
    decode [22, 3, 1, 72, 0] = .error .tooShortForLength := by decide

end Record

end TlsClient
