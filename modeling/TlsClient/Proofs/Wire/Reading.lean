import Mathlib.Data.List.Basic
import TlsClient.Handshake.Message
import TlsClient.Proofs.Numbers
import TlsClient.Record.Basic

/-!
# What a successful read says

A decoder that succeeds has taken its bytes from the front, and they spell what it returned.  The
statements here take decoders apart (`bind_ok`, `take_ok`, `integer_ok`, `vector_ok`) and end with the
form of a handshake message (`HandshakeMessage.decode_ok`) and of a record (`Record.decode_encode`).
-/

namespace TlsClient

namespace Decoder

variable {α β : Type}

theorem bind_ok {d : Decoder α} {f : α → Decoder β} {bs rest : Bytes} {b : β} :
    (d >>= f).run bs = .ok (b, rest) ↔
      ∃ a mid, d.run bs = .ok (a, mid) ∧ (f a).run mid = .ok (b, rest) := by
  rw [StateT.run_bind]
  cases d.run bs with
  | error e => simp [bind, Except.bind]
  | ok x =>
    obtain ⟨a, mid⟩ := x
    simp [bind, Except.bind]

theorem map_ok {d : Decoder α} {f : α → β} {bs rest : Bytes} {b : β} :
    (f <$> d).run bs = .ok (b, rest) ↔ ∃ a, d.run bs = .ok (a, rest) ∧ b = f a := by
  rw [← bind_pure_comp, bind_ok]
  constructor
  · rintro ⟨a, mid, h, h'⟩
    cases h'
    exact ⟨a, h, rfl⟩
  · rintro ⟨a, h, rfl⟩
    exact ⟨a, rest, h, rfl⟩

theorem take_ok {n : Nat} {e : DecodeError} {bs a rest : Bytes} :
    (take n e).run bs = .ok (a, rest) ↔ bs = a ++ rest ∧ a.length = n := by
  show (if _ then _ else _) = _ ↔ _
  split
  · next h =>
    constructor
    · intro h'
      cases h'
      exact ⟨(List.take_append_drop n bs).symm, h⟩
    · rintro ⟨rfl, rfl⟩
      simp
  · next h =>
    constructor
    · intro h'
      cases h'
    · rintro ⟨rfl, rfl⟩
      simp at h

theorem integer_ok {width n : Nat} {bs rest : Bytes} :
    (integer width).run bs = .ok (n, rest) ↔
      ∃ a, bs = a ++ rest ∧ a.length = width ∧ n = Bytes.toNat a := by
  unfold integer
  rw [bind_ok]
  constructor
  · rintro ⟨a, mid, h, h'⟩
    cases h'
    obtain ⟨hb, hl⟩ := take_ok.mp h
    exact ⟨a, hb, hl, rfl⟩
  · rintro ⟨a, hb, hl, rfl⟩
    exact ⟨a, rest, take_ok.mpr ⟨hb, hl⟩, rfl⟩

/-- A vector that was read is what would be written for its content. -/
theorem vector_ok {width : Nat} {bs a rest : Bytes} :
    (vector width).run bs = .ok (a, rest) ↔
      a.length < 256 ^ width ∧ bs = Encoder.vector width a ++ rest := by
  unfold vector announced
  rw [bind_ok]
  constructor
  · rintro ⟨n, mid, h, h'⟩
    obtain ⟨l, rfl, rfl, rfl⟩ := integer_ok.mp h
    obtain ⟨rfl, hl⟩ := take_ok.mp h'
    have := Bytes.toNat_lt l
    rw [Encoder.vector, hl, Bytes.ofNat_toNat]
    exact ⟨by omega, by simp⟩
  · rintro ⟨hl, rfl⟩
    refine ⟨a.length, a ++ rest, integer_ok.mpr ⟨Bytes.ofNat width a.length, ?_, ?_, ?_⟩,
      take_ok.mpr ⟨rfl, rfl⟩⟩
    · simp [Encoder.vector]
    · simp
    · rw [Bytes.toNat_ofNat, Nat.mod_eq_of_lt hl]

theorem finish_ok {what : String} {bs rest : Bytes} :
    (finish what).run bs = .ok ((), rest) ↔ bs = [] ∧ rest = [] := by
  show (if _ then _ else _) = _ ↔ _
  cases bs with
  | nil => simp [eq_comm]
  | cons b bs => simp

theorem onBytes_ok {d : Decoder α} {bs : Bytes} {a : α} :
    onBytes d bs = .ok a ↔ ∃ rest, d.run bs = .ok (a, rest) := by
  unfold onBytes
  cases d.run bs with
  | error e => simp [Functor.map, Except.map]
  | ok x =>
    obtain ⟨b, rest⟩ := x
    simp [Functor.map, Except.map]

theorem exactly_ok {d : Decoder α} {what : String} {bs : Bytes} {a : α} :
    exactly what d bs = .ok a ↔ d.run bs = .ok (a, []) := by
  unfold exactly
  rw [onBytes_ok]
  constructor
  · rintro ⟨rest, h⟩
    obtain ⟨b, mid, hd, h⟩ := bind_ok.mp h
    obtain ⟨_, mid', hf, h⟩ := bind_ok.mp h
    obtain ⟨rfl, rfl⟩ := finish_ok.mp hf
    cases h
    exact hd
  · intro h
    exact ⟨[], bind_ok.mpr ⟨a, [], h, bind_ok.mpr ⟨(), [], finish_ok.mpr ⟨rfl, rfl⟩, rfl⟩⟩⟩

theorem lift_ok {x : Except DecodeError α} {bs rest : Bytes} {a : α} :
    (liftM x : Decoder α).run bs = .ok (a, rest) ↔ x = .ok a ∧ rest = bs := by
  cases x with
  | error e => simp [liftM, monadLift, MonadLift.monadLift, StateT.lift, StateT.run, bind, Except.bind]
  | ok b =>
    simp [liftM, monadLift, MonadLift.monadLift, StateT.lift, StateT.run, bind, Except.bind, pure,
      Except.pure, eq_comm]

theorem ite_ok {p : Prop} [Decidable p] {d d' : Decoder α} {bs rest : Bytes} {a : α}
    (h : (if p then d else d').run bs = .ok (a, rest)) :
    p ∧ d.run bs = .ok (a, rest) ∨ ¬ p ∧ d'.run bs = .ok (a, rest) := by
  split at h
  · next hp => exact .inl ⟨hp, h⟩
  · next hp => exact .inr ⟨hp, h⟩

end Decoder

/-- A handshake message that was read is its type, the length of its body and its body. -/
theorem HandshakeMessage.decode_ok {bs rest : Bytes} {m : HandshakeMessage} :
    (Wire.decode : Decoder HandshakeMessage).run bs = .ok (m, rest) ↔
      ∃ t body, bs = t :: (Encoder.vector 3 body ++ rest) ∧ body.length < 256 ^ 3 ∧
        (decodeBody ⟨t⟩).run body = .ok (m, []) := by
  show (do
    let typ ← (Registry.decode : Decoder HandshakeType)
    let body ← Decoder.vector 3
    liftM (Decoder.exactly "HandshakeMessagePayload" (decodeBody typ) body) :
      Decoder HandshakeMessage).run bs = _ ↔ _
  constructor
  · intro h
    obtain ⟨typ, mid, ht, h⟩ := Decoder.bind_ok.mp h
    obtain ⟨body, mid', hv, h⟩ := Decoder.bind_ok.mp h
    obtain ⟨hx, rfl⟩ := Decoder.lift_ok.mp h
    obtain ⟨a, mid'', ha, ht⟩ := Decoder.bind_ok.mp ht
    cases ht
    obtain ⟨rfl, hl⟩ := Decoder.take_ok.mp ha
    obtain ⟨t, rfl⟩ := List.length_eq_one_iff.mp hl
    obtain ⟨hlt, rfl⟩ := Decoder.vector_ok.mp hv
    refine ⟨t, body, rfl, hlt, ?_⟩
    simpa [Registry.ofCode, Bytes.toNat] using Decoder.exactly_ok.mp hx
  · rintro ⟨t, body, rfl, hlt, h⟩
    refine Decoder.bind_ok.mpr ⟨⟨t⟩, _, ?_, Decoder.bind_ok.mpr ⟨body, rest,
      Decoder.vector_ok.mpr ⟨hlt, rfl⟩, Decoder.lift_ok.mpr ⟨Decoder.exactly_ok.mpr h, rfl⟩⟩⟩
    have ht : (Registry.ofCode (Bytes.toNat [t]) : HandshakeType) = ⟨t⟩ := by
      simp [Registry.ofCode, Bytes.toNat]
    exact Decoder.bind_ok.mpr ⟨[t], _, Decoder.take_ok.mpr ⟨rfl, rfl⟩,
      congrArg (fun x => Except.ok (x, _)) ht⟩

/-- A body is read as a message of the type that it was announced with. -/
theorem HandshakeMessage.decodeBody_typ {typ : HandshakeType} {bs rest : Bytes}
    {m : HandshakeMessage} (h : (decodeBody typ).run bs = .ok (m, rest)) : m.typ = typ := by
  have hmap : ∀ {α : Type} {f : α → HandshakeMessage} {d : Decoder α},
      (f <$> d).run bs = .ok (m, rest) → (∀ a, (f a).typ = typ) → m.typ = typ := by
    intro α f d h hf
    obtain ⟨a, -, rfl⟩ := Decoder.map_ok.mp h
    exact hf a
  have hpure : ∀ {m' : HandshakeMessage},
      (pure m' : Decoder HandshakeMessage).run bs = .ok (m, rest) → m'.typ = typ → m.typ = typ := by
    intro m' h hm'
    cases h
    exact hm'
  unfold decodeBody at h
  rcases Decoder.ite_ok h with ⟨ht, h⟩ | ⟨-, h⟩
  · exact hpure h ht.symm
  rcases Decoder.ite_ok h with ⟨ht, h⟩ | ⟨-, h⟩
  · exact hmap h fun _ => ht.symm
  rcases Decoder.ite_ok h with ⟨ht, h⟩ | ⟨-, h⟩
  · exact hmap h fun _ => ht.symm
  rcases Decoder.ite_ok h with ⟨ht, h⟩ | ⟨-, h⟩
  · exact hmap h fun _ => ht.symm
  rcases Decoder.ite_ok h with ⟨ht, h⟩ | ⟨-, h⟩
  · exact hmap h fun _ => ht.symm
  rcases Decoder.ite_ok h with ⟨ht, h⟩ | ⟨-, h⟩
  · exact hmap h fun _ => ht.symm
  rcases Decoder.ite_ok h with ⟨ht, h⟩ | ⟨-, h⟩
  · exact hpure h ht.symm
  rcases Decoder.ite_ok h with ⟨ht, h⟩ | ⟨-, h⟩
  · exact hmap h fun _ => ht.symm
  rcases Decoder.ite_ok h with ⟨ht, h⟩ | ⟨-, h⟩
  · exact hmap h fun _ => ht.symm
  rcases Decoder.ite_ok h with ⟨ht, h⟩ | ⟨-, h⟩
  · exact hmap h fun _ => ht.symm
  exact hmap h fun _ => rfl

theorem ContentType.encode_eq (t : ContentType) : Wire.encode t = [t.code] := by
  simp [Wire.encode, Registry.encode, Registry.width, Registry.code, Bytes.ofNat]

namespace Record

/-- A record is judged by its header first. -/
theorem decode_cons (t v₁ v₂ l₁ l₂ : UInt8) (bs : Bytes) :
    decode (t :: v₁ :: v₂ :: l₁ :: l₂ :: bs) =
      if maxPayload < Bytes.toNat [l₁, l₂] then .error .tooLarge
      else if (Registry.ofCode (Bytes.toNat [v₁, v₂]) : ProtocolVersion) ≠ .tls1 then
        .error .unknownVersion
      else if bs.length < Bytes.toNat [l₁, l₂] then .error .tooShortForLength
      else .ok (⟨⟨t⟩, .tls1, bs.take (Bytes.toNat [l₁, l₂])⟩, bs.drop (Bytes.toNat [l₁, l₂])) := by
  have ht : (Registry.ofCode (Bytes.toNat [t]) : ContentType) = ⟨t⟩ := by
    simp [Registry.ofCode, Bytes.toNat]
  show (if maxPayload < Bytes.toNat [l₁, l₂] then Except.error RecordError.tooLarge
    else if (Registry.ofCode (Bytes.toNat [v₁, v₂]) : ProtocolVersion) ≠ .tls1 then
      Except.error RecordError.unknownVersion
    else if (bs.take (Bytes.toNat [l₁, l₂])).length < Bytes.toNat [l₁, l₂] then
      Except.error RecordError.tooShortForLength
    else Except.ok ((⟨Registry.ofCode (Bytes.toNat [t]), Registry.ofCode (Bytes.toNat [v₁, v₂]),
      bs.take (Bytes.toNat [l₁, l₂])⟩ : Record), bs.drop (Bytes.toNat [l₁, l₂]))) = _
  rw [ht]
  split
  · rfl
  · split
    · rfl
    · next hv =>
      rw [not_not.mp hv]
      refine ite_congr (propext ?_) (fun _ => rfl) fun _ => rfl
      rw [List.length_take]
      omega

theorem lt_of_le_maxPayload {n : Nat} (h : n ≤ maxPayload) : n < 256 ^ 2 :=
  Nat.lt_of_le_of_lt h (by decide)

/-- What a record whose length can be written looks like on the wire. -/
theorem encode_cons {r : Record} (hv : r.version = .tls1) (hl : r.payload.length < 256 ^ 2) :
    ∃ l₁ l₂, Bytes.toNat [l₁, l₂] = r.payload.length ∧
      r.encode = r.typ.code :: 3 :: 1 :: l₁ :: l₂ :: r.payload := by
  obtain ⟨⟨t⟩, v, payload⟩ := r
  subst hv
  obtain ⟨l₁, l₂, h⟩ := List.length_eq_two.mp (Bytes.length_ofNat 2 payload.length)
  have ht : Wire.encode (⟨t⟩ : ContentType) = [t] := ContentType.encode_eq ⟨t⟩
  refine ⟨l₁, l₂, ?_, ?_⟩
  · rw [← h, Bytes.toNat_ofNat, Nat.mod_eq_of_lt hl]
  · simp only [encode, Encoder.vector, h, ht]
    rfl

/-- Reading a record that was written gives it back, whatever follows. -/
theorem decode_encode {r : Record} (hv : r.version = .tls1) (hl : r.payload.length ≤ maxPayload)
    (rest : Bytes) : decode (r.encode ++ rest) = .ok (r, rest) := by
  obtain ⟨l₁, l₂, hn, henc⟩ := encode_cons hv (lt_of_le_maxPayload hl)
  simp only [henc, List.cons_append]
  rw [decode_cons, hn, if_neg (by omega), if_neg (by decide),
    if_neg (by rw [List.length_append]; omega), List.take_left, List.drop_left, ← hv]

end Record

end TlsClient
