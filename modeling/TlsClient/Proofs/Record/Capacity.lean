import Mathlib.Logic.Relation
import TlsClient.Proofs.Record.Deframing
import TlsClient.Proofs.Record.Streams

/-!
# How much has to be kept

A deframer with nothing to give holds less than a record (`Deframer.not_prefix_of_pop`), and its buffer fits
any record.  So a full one always answers: with a record, which makes room, or with an error, and then with
an error whatever arrives behind (`Deframer.yields`).  What waits in the handshake joiner is no more than
the beginning of one message of a length that is allowed (`HandshakeJoiner.begins_of_front`).
-/

namespace TlsClient

open Relation (ReflTransGen)

/-- A whole record leaves nothing open, not even one that is refused. -/
theorem Record.decided_encode {r : Record} (h : r.payload.length < 256 ^ 2) (rest : Bytes) :
    ¬ Undecided (decode (r.encode ++ rest)) := by
  rw [encode_eq_header, List.append_assoc, decode_header _ _ h]
  split
  · exact id
  · split
    · exact id
    · rw [if_neg (by rw [List.length_append]; omega)]
      exact id

namespace Deframer

variable {d d' : Deframer}

/-- A deframer with nothing to give does not hold a whole record, of whatever type and version. -/
theorem not_prefix_of_pop (h : d.pop.1 = .ok none) {r : Record} (hr : r.payload.length < 256 ^ 2) :
    ¬ r.encode <+: d.buffer := by
  rintro ⟨rest, hbuffer⟩
  exact Record.decided_encode hr rest (hbuffer ▸ undecided_of_pop h)

/-- The record that is given was in front. -/
theorem buffer_of_pop {r : Record} (h : d.pop = (.ok (some r), d')) :
    d.buffer = r.encode ++ d'.buffer ∧ r.Fits := by
  unfold pop at h
  split at h
  · cases h
  · split at h
    · next hdecode =>
      cases h
      exact Record.eq_of_decode hdecode
    all_goals cases h

/-! ## What becomes of a full buffer -/

/-- What can happen to a deframer: bytes arrive, or it is asked for a record. -/
inductive Goes (d : Deframer) : Deframer → Prop
  | push (bs : Bytes) : Goes d (d.push bs)
  | pop : Goes d d.pop.2

/-- A deframer that answers with an error. -/
def Refuses (d : Deframer) : Prop := ∃ e, d.pop.1 = .error e

/-- Once a header was refused it is lost where the next record starts. -/
theorem desynced_of_pop_error {e : TlsError} (h : d.pop.1 = .error e) : d.pop.2.desynced = true := by
  unfold Deframer.pop at h ⊢
  split
  · assumption
  · next hd =>
    rw [if_neg hd] at h
    split at h <;> first | rfl | cases h

theorem refuses_of_desynced (h : d.desynced = true) : d.Refuses :=
  ⟨.malformed .tooShort, by rw [pop_of_desynced h]⟩

/-- Neither more bytes nor asking again helps once a header was refused. -/
theorem Refuses.goes (h : d.Refuses) (hgoes : d.Goes d') : d'.Refuses := by
  obtain ⟨e, he⟩ := h
  cases hgoes with
  | push bs =>
    have hextend := pop_extend (d := d) (by rw [he]; exact nofun) (bs.take d.room)
    exact ⟨e, (congrArg Prod.fst hextend).trans he⟩
  | pop => exact refuses_of_desynced (desynced_of_pop_error he)

theorem Refuses.lasting (h : d.Refuses) (hgoes : ReflTransGen Goes d d') : d'.Refuses := by
  induction hgoes with
  | refl => exact h
  | tail _ hstep ih => exact ih.goes hstep

/-- A deframer has an answer: the record in front, which makes room for more bytes, or an error, and then
it answers with an error for ever. -/
inductive Yields (d : Deframer) : Prop
  | record (r : Record) (d' : Deframer) (hpop : d.pop = (.ok (some r), d'))
    (hfront : d.buffer = r.encode ++ d'.buffer) (hroom : d'.isFull = false)
  | error (hlasting : ∀ d', ReflTransGen Goes d d' → ∃ e, d'.pop.1 = .error e)

/-- The buffer fits the longest record, so a full one has an answer. -/
theorem yields (hfull : d.isFull = true) : d.Yields := by
  have hlength : d.buffer.length = Record.maxLength := beq_iff_eq.mp hfull
  rcases hpop : d.pop with ⟨e | _ | r, d'⟩
  · have hrefuses : d.Refuses := ⟨e, by rw [hpop]⟩
    exact .error fun _ hgoes => hrefuses.lasting hgoes
  · have hroom := room_pos (d := d) (by rw [hpop])
    rw [room, hlength, Nat.sub_self] at hroom
    exact absurd hroom (Nat.lt_irrefl 0)
  · have hshorter := length_lt_of_pop hpop
    have hroom : d'.isFull = false := by
      rw [isFull, beq_eq_false_iff_ne, ← hlength]
      exact Nat.ne_of_lt hshorter
    exact .record r d' hpop (buffer_of_pop hpop).1 hroom

end Deframer

namespace HandshakeJoiner

/-- The beginning of one handshake message: not all of its header yet, or a header that announces a body
of an allowed length, and not all of that. -/
inductive Begins : Bytes → Prop
  | header {bs : Bytes} (h : bs.length < 4) : Begins bs
  | body (t : UInt8) (length : Nat) (part : Bytes) (hmax : length ≤ 0xffff)
    (h : part.length < length) : Begins (t :: (Bytes.ofNat 3 length ++ part))

theorem begins_of_front {bs : Bytes} (h : front bs = .incomplete) : Begins bs := by
  rcases Nat.lt_or_ge bs.length 4 with hshort | hlong
  · exact .header hshort
  · obtain ⟨t, length, part, hlength, rfl⟩ := exists_header hlong
    rw [front_header t hlength] at h
    split at h
    · cases h
    · next hmax =>
      split at h
      · cases h
      · next hpart => exact .body t length part (Nat.not_lt.mp hmax) (Nat.not_le.mp hpart)

/-- One byte less than the longest message. -/
theorem Begins.length_le {bs : Bytes} (h : Begins bs) : bs.length ≤ 4 + 0xffff - 1 := by
  cases h with
  | header h => omega
  | body t length part hmax h =>
    rw [List.length_cons, List.length_append, Bytes.length_ofNat]
    omega

end HandshakeJoiner

end TlsClient
