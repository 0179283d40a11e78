import TlsClient.Proofs.Wire.Messages
import TlsClient.Record.Joiner
import TlsClient.Transcript

/-!
# What the handshake joiner does with its bytes

No byte is lost, added or moved: what was joined is the bytes of the messages that came out, followed
by what is kept (`push_bytes`).  A message that is still incomplete only waits (`push_incomplete`), and
one that is complete comes out as it was sent (`push_whole`), also if it came in pieces
(`pushAll_pieces`).
-/

namespace TlsClient

open Transcript (contribution)

/-- A handshake message as it comes out of the joiner: its bytes read as just this message. -/
def Message.Joined (v : ProtocolVersion) (m : Message) : Prop :=
  ∃ parsed encoded, m = ⟨v, .handshake parsed encoded⟩ ∧
    (Wire.decode : Decoder HandshakeMessage).run encoded = .ok (parsed, [])

namespace HandshakeJoiner

/-- Splitting moves messages from the buffer to the ready ones and changes no byte. -/
theorem split_bytes (v : ProtocolVersion) (fuel : Nat) (j : HandshakeJoiner) :
    ∃ new, (split v fuel j).2.ready = j.ready ++ new ∧
      j.buffer = new.flatMap contribution ++ (split v fuel j).2.buffer ∧
      ∀ m ∈ new, m.Joined v := by
  induction fuel generalizing j with
  | zero => exact ⟨[], by simp [split], by simp [split], by simp⟩
  | succ fuel ih =>
    have hnone : ∀ r, split v (fuel + 1) j = (r, j) →
        ∃ new, (split v (fuel + 1) j).2.ready = j.ready ++ new ∧
          j.buffer = new.flatMap contribution ++ (split v (fuel + 1) j).2.buffer ∧
          ∀ m ∈ new, m.Joined v := fun r h => ⟨[], by simp [h], by simp [h], by simp⟩
    cases hf : front j.buffer with
    | tooLarge => exact hnone _ (by rw [split, hf])
    | incomplete => exact hnone _ (by rw [split, hf])
    | whole =>
      cases hd : (Wire.decode : Decoder HandshakeMessage).run j.buffer with
      | error e => exact hnone (.error e) (by simp only [split, hf, hd])
      | ok x =>
        obtain ⟨m, rest⟩ := x
        obtain ⟨t, body, hb, hl, hx⟩ := HandshakeMessage.decode_ok.mp hd
        have henc : j.buffer.take (j.buffer.length - rest.length) = t :: Encoder.vector 3 body := by
          rw [hb, ← List.cons_append, List.length_append, Nat.add_sub_cancel, List.take_left]
        set j' : HandshakeJoiner :=
          { ready := j.ready ++ [⟨v, .handshake m (t :: Encoder.vector 3 body)⟩], buffer := rest }
          with hj'
        have hs : (split v (fuel + 1) j).2 = (split v fuel j').2 := by
          simp only [split, hf, hd, henc, ← hj']
        obtain ⟨new, hready, hbuffer, hnew⟩ := ih j'
        refine ⟨⟨v, .handshake m (t :: Encoder.vector 3 body)⟩ :: new, ?_, ?_, ?_⟩
        · rw [hs, hready, hj', List.append_assoc, List.singleton_append]
        · have : rest = new.flatMap contribution ++ (split v fuel j').2.buffer := hbuffer
          rw [hs, hb, List.flatMap_cons, List.append_assoc, ← this]
          simp [contribution]
        · rintro m' (_ | ⟨_, h⟩)
          · exact ⟨m, _, rfl, HandshakeMessage.decode_ok.mpr ⟨t, body, by simp, hl, hx⟩⟩
          · exact hnew m' h

theorem push_eq {j : HandshakeJoiner} {r : Record} (hr : r.payload ≠ []) :
    j.push r = split r.version (j.buffer ++ r.payload).length
      { j with buffer := j.buffer ++ r.payload } := by
  unfold push
  rw [if_neg (by simpa using hr)]

/-- What was joined is the messages that came out and what is kept. -/
theorem push_bytes {j j' : HandshakeJoiner} {r : Record} {n : Nat} (hj : j.ready = [])
    (h : j.push r = (.ok n, j')) :
    j.buffer ++ r.payload = j'.ready.flatMap contribution ++ j'.buffer ∧
      ∀ m ∈ j'.ready, m.Joined r.version := by
  have hr : r.payload ≠ [] := by
    intro hr
    simp [push, hr] at h
  rw [push_eq hr] at h
  obtain ⟨new, hready, hbuffer, hnew⟩ := split_bytes r.version (j.buffer ++ r.payload).length
    { j with buffer := j.buffer ++ r.payload }
  rw [h] at hready hbuffer
  rw [hj, List.nil_append] at hready
  exact ⟨hready ▸ hbuffer, hready ▸ hnew⟩

theorem push_incomplete {j : HandshakeJoiner} {r : Record} (hr : r.payload ≠ [])
    (hf : front (j.buffer ++ r.payload) = .incomplete) :
    j.push r = (.ok 0, { j with buffer := j.buffer ++ r.payload }) := by
  rw [push_eq hr]
  cases (j.buffer ++ r.payload).length with
  | zero => rfl
  | succ n => simp only [split, hf]

/-- Bytes that are enough for a header begin with one. -/
theorem exists_header {bs : Bytes} (h : 4 ≤ bs.length) :
    ∃ t length more, length < 256 ^ 3 ∧ bs = t :: (Bytes.ofNat 3 length ++ more) := by
  match bs, h with
  | t :: a :: b :: c :: more, _ =>
    have hheader : Bytes.ofNat 3 (Bytes.toNat [a, b, c]) = [a, b, c] := Bytes.ofNat_toNat [a, b, c]
    refine ⟨t, Bytes.toNat [a, b, c], more, Bytes.toNat_lt [a, b, c], ?_⟩
    rw [hheader]
    rfl

theorem front_short {bs : Bytes} (h : bs.length < 4) : front bs = .incomplete := by
  match bs, h with
  | [], _ | [_], _ | [_, _], _ | [_, _, _], _ => rfl

/-- A buffer is judged by the length in the header that it begins with. -/
theorem front_header (t : UInt8) {length : Nat} (h : length < 256 ^ 3) (more : Bytes) :
    front (t :: (Bytes.ofNat 3 length ++ more)) =
      if maxBody < length then .tooLarge else if length ≤ more.length then .whole else .incomplete := by
  obtain ⟨a, b, c, habc⟩ := List.length_eq_three.mp (Bytes.length_ofNat 3 length)
  have hn : Bytes.toNat [a, b, c] = length := by
    rw [← habc, Bytes.toNat_ofNat, Nat.mod_eq_of_lt h]
  have htake : length ≤ (more.take length).length ↔ length ≤ more.length := by
    rw [List.length_take]
    omega
  simp only [habc, List.cons_append, List.nil_append, front, hn, htake]

/-- A buffer that begins with a message is judged by the length of its body. -/
theorem front_vector (t : UInt8) {body : Bytes} (h : body.length < 256 ^ 3) (rest : Bytes) :
    front (t :: (Encoder.vector 3 body ++ rest)) =
      if maxBody < body.length then .tooLarge else .whole := by
  have hthere : body.length ≤ (body ++ rest).length := by
    rw [List.length_append]
    omega
  rw [Encoder.vector, List.append_assoc, front_header t h, if_pos hthere]

/-- A beginning of a message that is not too long is incomplete. -/
theorem front_beginning (t : UInt8) {body bs more : Bytes} (h : body.length ≤ maxBody)
    (hmore : more ≠ []) (hbs : t :: Encoder.vector 3 body = bs ++ more) : front bs = .incomplete := by
  rcases Nat.lt_or_ge bs.length 4 with hshort | hlong
  · exact front_short hshort
  · obtain ⟨u, length, part, hlength, rfl⟩ := exists_header hlong
    simp only [Encoder.vector, List.cons_append, List.append_assoc, List.cons.injEq] at hbs
    obtain ⟨hheader, hbody⟩ := List.append_inj hbs.2 (by simp only [Bytes.length_ofNat])
    have hlt : body.length < 256 ^ 3 := Nat.lt_of_le_of_lt h (by decide)
    have hsame : body.length = length := by
      have hn := congrArg Bytes.toNat hheader
      rwa [Bytes.toNat_ofNat, Bytes.toNat_ofNat, Nat.mod_eq_of_lt hlt, Nat.mod_eq_of_lt hlength] at hn
    have hpart : part.length < length := by
      have := List.length_pos_iff.mpr hmore
      rw [← hsame, hbody, List.length_append]
      omega
    rw [front_header u hlength, if_neg (by omega), if_neg (by omega)]

/-- A message that is complete comes out with the bytes it was sent in. -/
theorem push_whole {j : HandshakeJoiner} {r : Record} {m : HandshakeMessage}
    (hr : r.payload ≠ [])
    (hm : (Wire.decode : Decoder HandshakeMessage).run (j.buffer ++ r.payload) = .ok (m, []))
    (hl : (j.buffer ++ r.payload).length ≤ 4 + maxBody) :
    j.push r = (.ok 1,
      { ready := j.ready ++ [⟨r.version, .handshake m (j.buffer ++ r.payload)⟩], buffer := [] }) := by
  obtain ⟨t, body, hb, hlt, -⟩ := HandshakeMessage.decode_ok.mp hm
  have hbody : body.length ≤ maxBody := by
    rw [hb] at hl
    simp [Encoder.vector] at hl
    omega
  have hf : front (j.buffer ++ r.payload) = .whole := by
    rw [hb, front_vector t hlt, if_neg (by omega)]
  rw [push_eq hr]
  obtain ⟨n, hn⟩ : ∃ n, (j.buffer ++ r.payload).length = n + 1 := ⟨_, by rw [hb]; rfl⟩
  have hempty : ∀ k : HandshakeJoiner, k.buffer = [] → split r.version n k = (.ok 0, k) := by
    intro k hk
    cases n with
    | zero => rfl
    | succ n => simp only [split, hk, front]
  rw [hn]
  simp only [split, hf, hm, hempty, List.length_nil, Nat.sub_zero, List.take_length]
  rfl

/-! ## Messages in pieces -/

/-- Takes in records one after another, up to the first that cannot be taken in. -/
def pushAll : HandshakeJoiner → List Record → Except DecodeError HandshakeJoiner
  | j, [] => .ok j
  | j, r :: rs =>
    match j.push r with
    | (.ok _, j) => j.pushAll rs
    | (.error e, _) => .error e

/-- A message that arrives in pieces comes out with the last of them, as it was written. -/
theorem pushAll_pieces {m : HandshakeMessage} {v : ProtocolVersion} {j : HandshakeJoiner}
    {rs : List Record} (hm : (Wire.decode : Decoder HandshakeMessage).run (Wire.encode m) = .ok (m, []))
    (hbody : m.body.length ≤ maxBody) (hne : rs ≠ [])
    (hrs : ∀ r ∈ rs, r.version = v ∧ r.payload ≠ [])
    (hbytes : j.buffer ++ rs.flatMap Record.payload = Wire.encode m) :
    j.pushAll rs =
      .ok { ready := j.ready ++ [⟨v, .handshake m (Wire.encode m)⟩], buffer := [] } := by
  induction rs generalizing j with
  | nil => exact absurd rfl hne
  | cons r rs ih =>
    obtain ⟨⟨rfl, hr⟩, hrest⟩ := List.forall_mem_cons.mp hrs
    cases rs with
    | nil =>
      have hwhole : j.buffer ++ r.payload = Wire.encode m := by simpa using hbytes
      have hlength : (j.buffer ++ r.payload).length ≤ 4 + maxBody := by
        rw [hwhole, HandshakeMessage.encode_eq, Encoder.vector, List.length_cons, List.length_append,
          Bytes.length_ofNat]
        omega
      rw [pushAll, push_whole hr (hwhole ▸ hm) hlength, hwhole]
      rfl
    | cons x xs =>
      have hsplit : m.typ.code :: Encoder.vector 3 m.body =
          (j.buffer ++ r.payload) ++ (x :: xs).flatMap Record.payload := by
        rw [← HandshakeMessage.encode_eq, ← hbytes, List.flatMap_cons, List.append_assoc]
      have hmore : (x :: xs).flatMap Record.payload ≠ [] := by
        intro hnil
        rw [List.flatMap_cons] at hnil
        exact (hrest x List.mem_cons_self).2 (List.append_eq_nil_iff.mp hnil).1
      rw [pushAll, push_incomplete hr (front_beginning _ hbody hmore hsplit)]
      exact ih (List.cons_ne_nil x xs) hrest (by
        rw [← HandshakeMessage.encode_eq] at hsplit
        exact hsplit.symm)

end HandshakeJoiner

end TlsClient
