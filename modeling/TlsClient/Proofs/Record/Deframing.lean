import TlsClient.Proofs.Wire.Canonical
import TlsClient.Record.Deframer

/-!
# Where records end

A read of a record turns out in one of five ways, which the header and the bytes behind it decide
(`Record.Judged`).  What a deframer makes of the bytes in front does not depend on those behind them: a
record that can be cut out is cut out whatever follows, and a header that cannot be right is refused whatever
follows (`pop_extend`).  A deframer that has nothing to give yet has room for more (`room_pos`).
-/

namespace TlsClient

namespace Record

variable {bs : Bytes} {n : Nat}

/-- A record that a deframer can cut out of what arrives. -/
def Fits (r : Record) : Prop := r.version = .tls1 ∧ r.payload.length ≤ maxPayload

/-! ## Headers -/

/-- The bytes in front of a payload. -/
def header (typ : ContentType) (version : ProtocolVersion) (length : Nat) : Bytes :=
  Wire.encode typ ++ Wire.encode version ++ Bytes.ofNat 2 length

@[simp] theorem length_header (t : ContentType) (v : ProtocolVersion) (n : Nat) :
    (header t v n).length = headerLength := by
  have htype : (Wire.encode t).length = 1 := Bytes.length_ofNat _ _
  have hversion : (Wire.encode v).length = 2 := Bytes.length_ofNat _ _
  rw [header, List.length_append, List.length_append, htype, hversion, Bytes.length_ofNat]
  rfl

theorem encode_eq_header (r : Record) :
    r.encode = header r.typ r.version r.payload.length ++ r.payload := by
  simp only [encode, header, Encoder.vector, List.append_assoc]

/-- Bytes that are enough for a header begin with one. -/
theorem exists_header (h : headerLength ≤ bs.length) :
    ∃ t v n more, n < 256 ^ 2 ∧ bs = header t v n ++ more := by
  match bs, h with
  | t :: v₁ :: v₂ :: l₁ :: l₂ :: more, _ =>
    refine ⟨⟨t⟩, Registry.ofCode (Bytes.toNat [v₁, v₂]), Bytes.toNat [l₁, l₂], more, Bytes.toNat_lt _, ?_⟩
    have hversion : Wire.encode (Registry.ofCode (Bytes.toNat [v₁, v₂]) : ProtocolVersion) = [v₁, v₂] := by
      show Bytes.ofNat 2 (Registry.code _) = _
      rw [Registry.Lawful.code_ofCode _ (Bytes.toNat_lt [v₁, v₂])]
      exact Bytes.ofNat_toNat [v₁, v₂]
    have hlength : Bytes.ofNat 2 (Bytes.toNat [l₁, l₂]) = [l₁, l₂] := Bytes.ofNat_toNat [l₁, l₂]
    rw [header, ContentType.encode_eq, hversion, hlength]
    rfl

theorem decode_short (h : bs.length < headerLength) : decode bs = .error .tooShortForHeader := by
  match bs, h with
  | [], _ | [_], _ | [_, _], _ | [_, _, _], _ | [_, _, _, _], _ => rfl

/-- What is read behind a header, which is judged by its length first. -/
theorem decode_header (t : ContentType) (v : ProtocolVersion) (h : n < 256 ^ 2) (more : Bytes) :
    decode (header t v n ++ more) =
      if maxPayload < n then .error .tooLarge
      else if v ≠ .tls1 then .error .unknownVersion
      else if more.length < n then .error .tooShortForLength
      else .ok (⟨t, .tls1, more.take n⟩, more.drop n) := by
  obtain ⟨v₁, v₂, hv⟩ : ∃ v₁ v₂, Wire.encode v = [v₁, v₂] :=
    List.length_eq_two.mp (Bytes.length_ofNat 2 _)
  obtain ⟨l₁, l₂, hl⟩ := List.length_eq_two.mp (Bytes.length_ofNat 2 n)
  have hversion : (Registry.ofCode (Bytes.toNat [v₁, v₂]) : ProtocolVersion) = v := by
    have hcode : Bytes.toNat (Wire.encode v) = Registry.code v :=
      (Bytes.toNat_ofNat _ _).trans (Nat.mod_eq_of_lt (Registry.Lawful.code_lt v))
    rw [← hv, hcode, Registry.Lawful.ofCode_code]
  have hlength : Bytes.toNat [l₁, l₂] = n := by rw [← hl, Bytes.toNat_ofNat, Nat.mod_eq_of_lt h]
  rw [header, ContentType.encode_eq, hv, hl]
  show decode (t.code :: v₁ :: v₂ :: l₁ :: l₂ :: more) = _
  rw [decode_cons, hversion, hlength]

/-! ## How a read turns out -/

/-- What becomes of a read of some bytes. -/
inductive Judged : Bytes → Except RecordError (Record × Bytes) → Prop
  /-- The header is not there as a whole. -/
  | short {bs : Bytes} (h : bs.length < headerLength) : Judged bs (.error .tooShortForHeader)
  /-- The payload is not there as a whole. -/
  | incomplete (t : ContentType) {n : Nat} {part : Bytes} (hn : n ≤ maxPayload) (h : part.length < n) :
    Judged (header t .tls1 n ++ part) (.error .tooShortForLength)
  | whole {r : Record} (h : r.Fits) (rest : Bytes) : Judged (r.encode ++ rest) (.ok (r, rest))
  /-- Too long, of whatever version, and however much of it is there. -/
  | tooLarge (t : ContentType) (v : ProtocolVersion) {n : Nat} (h : maxPayload < n) (hn : n < 256 ^ 2)
    (more : Bytes) : Judged (header t v n ++ more) (.error .tooLarge)
  | unknownVersion (t : ContentType) {v : ProtocolVersion} {n : Nat} (h : v ≠ .tls1) (hn : n ≤ maxPayload)
    (more : Bytes) : Judged (header t v n ++ more) (.error .unknownVersion)

variable {x : Except RecordError (Record × Bytes)}

theorem judged_decode (bs : Bytes) : Judged bs (decode bs) := by
  rcases Nat.lt_or_ge bs.length headerLength with hshort | hlong
  · rw [decode_short hshort]
    exact .short hshort
  · obtain ⟨t, v, n, more, hn, rfl⟩ := exists_header hlong
    rw [decode_header t v hn]
    split
    · next hmax => exact .tooLarge t v hmax hn more
    · next hmax =>
      split
      · next hv => exact .unknownVersion t hv (Nat.not_lt.mp hmax) more
      · next hv =>
        obtain rfl := not_not.mp hv
        split
        · next hpart => exact .incomplete t (Nat.not_lt.mp hmax) hpart
        · next hpart =>
          have hlength : (more.take n).length = n := List.length_take_of_le (Nat.not_lt.mp hpart)
          have hfits : Fits ⟨t, .tls1, more.take n⟩ := ⟨rfl, by rw [hlength]; exact Nat.not_lt.mp hmax⟩
          have hwhole := Judged.whole hfits (more.drop n)
          rwa [encode_eq_header, List.append_assoc, List.take_append_drop, hlength] at hwhole

theorem Judged.eq (h : Judged bs x) : decode bs = x := by
  cases h with
  | short h => exact decode_short h
  | incomplete t hn h =>
    rw [decode_header t _ (lt_of_le_maxPayload hn), if_neg (Nat.not_lt.mpr hn), if_neg (not_not.mpr rfl), if_pos h]
  | whole h rest => exact decode_encode h.1 h.2 rest
  | tooLarge t v h hn more => rw [decode_header t v hn, if_pos h]
  | unknownVersion t h hn more =>
    rw [decode_header t _ (lt_of_le_maxPayload hn), if_neg (Nat.not_lt.mpr hn), if_pos h]

theorem judged_iff : Judged bs x ↔ decode bs = x := ⟨Judged.eq, fun h => h ▸ judged_decode bs⟩

/-- Whether more bytes may tell what is not known yet. -/
def Undecided : Except RecordError (Record × Bytes) → Prop
  | .error .tooShortForHeader | .error .tooShortForLength => True
  | _ => False

/-- Bytes that may still be the beginning of a record are fewer than the longest record has. -/
theorem length_lt_of_undecided (h : Undecided (decode bs)) : bs.length < maxLength := by
  have hjudged := judged_decode bs
  generalize decode bs = x at h hjudged
  cases hjudged with
  | short hshort => exact Nat.lt_of_lt_of_le hshort (Nat.le_add_right _ _)
  | incomplete t hn hpart =>
    rw [List.length_append, length_header]
    exact Nat.add_lt_add_left (Nat.lt_of_lt_of_le hpart hn) _
  | whole | tooLarge | unknownVersion => exact h.elim

/-- Once it is decided what some bytes are, more of them are only left over. -/
theorem decode_append (h : ¬ Undecided (decode bs)) (more : Bytes) :
    decode (bs ++ more) = (fun x => (x.1, x.2 ++ more)) <$> decode bs := by
  have hjudged := judged_decode bs
  generalize decode bs = x at h hjudged
  refine Judged.eq ?_
  cases hjudged with
  | short | incomplete => exact absurd trivial h
  | whole hr rest =>
    rw [List.append_assoc]
    exact .whole hr _
  | tooLarge t v hmax hn rest =>
    rw [List.append_assoc]
    exact .tooLarge t v hmax hn _
  | unknownVersion t hv hn rest =>
    rw [List.append_assoc]
    exact .unknownVersion t hv hn _

/-- Of the beginning of a record it is not known yet what it is. -/
theorem undecided_of_beginning {r : Record} (hr : r.Fits) {more : Bytes} (hmore : more ≠ [])
    (hbs : r.encode = bs ++ more) : Undecided (decode bs) := by
  by_contra hdecided
  have hread := decode_encode hr.1 hr.2 []
  rw [List.append_nil, hbs, decode_append hdecided] at hread
  generalize decode bs = x at hread
  rcases x with e | ⟨r', rest⟩
  · cases hread
  · obtain ⟨-, hrest⟩ := Prod.mk.inj (Except.ok.inj hread)
    exact hmore (List.append_eq_nil_iff.mp hrest).2

/-- A record that can be read is there as it would be written. -/
theorem eq_of_decode {rest : Bytes} {r : Record} (h : decode bs = .ok (r, rest)) :
    bs = r.encode ++ rest ∧ r.Fits := by
  have hjudged := judged_decode bs
  rw [h] at hjudged
  cases hjudged with
  | whole hr rest => exact ⟨rfl, hr⟩

/-- A record takes at least its header. -/
theorem length_lt_of_decode {r : Record} {rest : Bytes} (h : decode bs = .ok (r, rest)) :
    rest.length < bs.length := by
  rw [(eq_of_decode h).1, encode_eq_header, List.length_append, List.length_append, length_header]
  have : 0 < headerLength := by decide
  omega

/-- A byte string is records, one after another, with nothing left over. -/
inductive Parses : Bytes → List Record → Prop
  | nil : Parses [] []
  | cons {bs rest : Bytes} {r : Record} {rs : List Record} (h : Record.decode bs = .ok (r, rest))
    (hrest : Parses rest rs) : Parses bs (r :: rs)

theorem parses_encode {rs : List Record}
    (h : ∀ r ∈ rs, r.version = .tls1 ∧ r.payload.length ≤ maxPayload) :
    Parses (rs.flatMap Record.encode) rs := by
  induction rs with
  | nil => exact .nil
  | cons r rs ih =>
    obtain ⟨⟨hversion, hlength⟩, hrs⟩ := List.forall_mem_cons.mp h
    exact .cons (decode_encode hversion hlength _) (ih hrs)

end Record

namespace Deframer

variable {d d' : Deframer} {r : Record}

/-- More bytes behind those that have arrived, however many. -/
def extend (d : Deframer) (more : Bytes) : Deframer := { d with buffer := d.buffer ++ more }

@[simp] theorem extend_nil (d : Deframer) : d.extend [] = d := by rw [extend, List.append_nil]

@[simp] theorem extend_extend (d : Deframer) (bs more : Bytes) :
    (d.extend bs).extend more = d.extend (bs ++ more) := by
  rw [extend, extend, extend, List.append_assoc]

/-- Bytes that fit are all kept. -/
theorem push_eq_extend {bs : Bytes} (h : bs.length ≤ d.room) : d.push bs = d.extend bs := by
  rw [push, List.take_of_length_le h]
  rfl

/-- What is given does not depend on the bytes behind. -/
theorem pop_extend (h : d.pop.1 ≠ .ok none) (more : Bytes) :
    (d.extend more).pop = (d.pop.1, d.pop.2.extend more) := by
  by_cases hd : d.desynced = true
  · simp [pop, extend, hd]
  · have hdecided : ¬ Record.Undecided (Record.decode d.buffer) := by
      intro hu
      simp only [pop, if_neg hd] at h
      rcases hx : Record.decode d.buffer with e | x
      · rw [hx] at hu h
        cases e <;> first | exact hu.elim | exact h rfl
      · rw [hx] at hu
        exact hu.elim
    have happend := Record.decode_append hdecided more
    rcases hx : Record.decode d.buffer with e | x
    all_goals
      rw [hx] at hdecided happend
      simp only [pop, extend, hd, hx, happend]
    · cases e <;> first | exact absurd trivial hdecided | rfl
    · rfl

theorem length_lt_of_pop (h : d.pop = (.ok (some r), d')) :
    d'.buffer.length < d.buffer.length := by
  unfold pop at h
  split at h
  · cases h
  · split at h
    · next hx =>
      cases h
      exact Record.length_lt_of_decode hx
    all_goals cases h

/-- A header that is refused stays in the buffer. -/
theorem buffer_of_pop_error {e : TlsError} (h : d.pop = (.error e, d')) : d'.buffer = d.buffer := by
  unfold pop at h
  split at h
  · cases h
    rfl
  · split at h <;> cases h <;> rfl

/-- A deframer that refused a header says so for ever. -/
theorem pop_of_desynced (h : d.desynced = true) : d.pop = (.error (.malformed .tooShort), d) := by
  rw [pop, if_pos h]

/-- As long as no header is refused it is known where the next record starts. -/
theorem desynced_of_pop {x : Option Record} (h : d.pop = (.ok x, d')) : d'.desynced = d.desynced := by
  unfold pop at h
  split at h
  · cases h
  · split at h <;> cases h <;> rfl

/-- A deframer with nothing to give stays as it is. -/
theorem eq_of_pop_none (h : d.pop.1 = .ok none) : d.pop = (.ok none, d) := by
  unfold pop at h ⊢
  by_cases hd : d.desynced = true
  · rw [if_pos hd] at h
    cases h
  · rw [if_neg hd] at h ⊢
    rcases hx : Record.decode d.buffer with e | x
    · rw [hx] at h
      cases e <;> first | rfl | cases h
    · rw [hx] at h
      cases h

/-- A deframer with nothing to give holds what may still become a record. -/
theorem undecided_of_pop (h : d.pop.1 = .ok none) : Record.Undecided (Record.decode d.buffer) := by
  unfold pop at h
  split at h
  · cases h
  · split at h
    · cases h
    · next hx =>
      rw [hx]
      trivial
    · next hx =>
      rw [hx]
      trivial
    all_goals cases h

/-- As long as it is not known what has arrived there is nothing to give. -/
theorem pop_of_undecided (hd : d.desynced = false) (h : Record.Undecided (Record.decode d.buffer)) :
    d.pop = (.ok none, d) := by
  rw [pop, hd]
  generalize Record.decode d.buffer = x at h
  match x, h with
  | .error .tooShortForHeader, _ | .error .tooShortForLength, _ => rfl

/-- A record that has arrived as a whole is cut out. -/
theorem pop_encode {rest : Bytes} (hd : d.desynced = false) (hr : r.Fits)
    (hbuffer : d.buffer = r.encode ++ rest) : d.pop = (.ok (some r), { d with buffer := rest }) := by
  rw [pop, hd, hbuffer, Record.decode_encode hr.1 hr.2]
  rfl

/-- The beginning of a record waits for the rest. -/
theorem pop_beginning {more : Bytes} (hd : d.desynced = false) (hr : r.Fits) (hmore : more ≠ [])
    (hbuffer : r.encode = d.buffer ++ more) : d.pop = (.ok none, d) :=
  pop_of_undecided hd (Record.undecided_of_beginning hr hmore hbuffer)

theorem pop_empty (hd : d.desynced = false) (hbuffer : d.buffer = []) : d.pop = (.ok none, d) := by
  rw [pop, hd, hbuffer]
  rfl

/-- There is room for more bytes if there is nothing to give. -/
theorem room_pos (h : d.pop.1 = .ok none) : 0 < d.room := by
  have := Record.length_lt_of_undecided (undecided_of_pop h)
  unfold room
  omega

end Deframer

end TlsClient
