import TlsClient.Proofs.Connection.Moves
import TlsClient.Proofs.Record.Carrying
import TlsClient.Proofs.Record.Joining

/-!
# What a connection takes in

Between the bytes of a record and their effect, handshake messages wait: what is pending in a joiner is
what was opened and has not been handled.  Before the key change all of it came out of records that
nobody protected (`Session.ReadsClear`), after it all of it took keys to open (`Session.ReadsKeyed`).
-/

namespace TlsClient

open Deeds (handled wire opened taken)
open Session (Talks)

/-! ## Messages that wait -/

namespace HandshakeJoiner

/-- The handshake bytes that were joined and have not been handled. -/
def pending (j : HandshakeJoiner) : Bytes := j.ready.flatMap Transcript.contribution ++ j.buffer

/-- What can wait: handshake messages, or one other message between two of them. -/
def Waits (j : HandshakeJoiner) : Prop :=
  (∀ m ∈ j.ready, ∃ v, m.Joined v) ∨ ∃ m, j.ready = [m] ∧ m.body.typ ≠ .handshake ∧ j.buffer = []

theorem Waits.rest {j : HandshakeJoiner} {m : Message} {rest : List Message} (h : j.Waits)
    (hready : j.ready = m :: rest) : ({ j with ready := rest } : HandshakeJoiner).Waits := by
  left
  intro x hx
  rcases h with h | ⟨y, hy, -⟩
  · exact h x (hready ▸ List.mem_cons_of_mem m hx)
  · rw [hready] at hy
    obtain ⟨-, rfl⟩ := List.cons.inj hy
    cases hx

end HandshakeJoiner

theorem Message.Joined.typ {v : ProtocolVersion} {m : Message} (h : m.Joined v) :
    m.body.typ = .handshake := by
  obtain ⟨parsed, encoded, rfl, -⟩ := h
  rfl

/-- A message that a record is by itself has the type of the record. -/
theorem Message.typ_of_ofRecord {r : Record} {m : Message} (h : Message.ofRecord r = .ok m) :
    m.body.typ = r.typ := congrArg Record.typ (toRecord_of_ofRecord h)

theorem Transcript.contribution_eq_nil {m : Message} (h : m.body.typ ≠ .handshake) :
    contribution m = [] := by
  unfold contribution
  split
  · next hm =>
    rw [hm] at h
    exact absurd rfl h
  · rfl

/-- The handshake bytes in a record. -/
def Record.handshakePayload (r : Record) : Bytes := if r.typ = .handshake then r.payload else []

theorem Event.openedBytes_opened (keyed k : Bool) (r : Record) :
    (Event.opened k r).openedBytes keyed = if k = keyed then r.handshakePayload else [] := by
  unfold openedBytes Record.handshakePayload
  by_cases hk : k = keyed <;> simp [hk]

/-- What a record completes can wait, and adds the handshake bytes of the record to what is pending. -/
theorem HandshakeJoiner.Completes.spec {j j' : HandshakeJoiner} {r : Record}
    (h : j.Completes r j') (hj : j.ready = []) :
    j'.Waits ∧ j'.pending = j.pending ++ r.handshakePayload := by
  have hpending : j.pending = j.buffer := by rw [pending, hj, List.flatMap_nil, List.nil_append]
  rw [hpending]
  cases h with
  | joined n _ hr h =>
    obtain ⟨hbytes, hjoined⟩ := push_bytes hj h
    refine ⟨.inl fun m hm => ⟨_, hjoined m hm⟩, ?_⟩
    rw [Record.handshakePayload, if_pos hr, hbytes, pending]
  | alone m hr hbuffer h =>
    have hm : m.body.typ ≠ .handshake := by rwa [Message.typ_of_ofRecord h]
    refine ⟨.inr ⟨m, rfl, hm, hbuffer⟩, ?_⟩
    rw [Record.handshakePayload, if_neg hr, pending, hbuffer]
    simp [Transcript.contribution_eq_nil hm]

/-! ## Sessions that take something in -/

namespace Session

/-- One session comes from another by deeds that send nothing. -/
structure Takes (es : List Event) (s s' : Session) : Prop where
  deeds : s'.deeds = s.deeds ++ es
  records : Deeds.records es = []
  sending : s'.layer.sending = s.layer.sending
  traffic : s'.traffic = s.traffic

variable {es : List Event} {s s' : Session} {p : Protection} {first : Record}

theorem Takes.clear (h : Takes es s s') (hs : s.Clear) : s'.Clear :=
  hs.of_eq (by rw [h.deeds, Deeds.records_append, h.records, List.append_nil]) h.sending h.traffic

theorem Takes.isSealed (h : Takes es s s') (hs : s.Sealed p first) : s'.Sealed p first :=
  hs.of_eq (by rw [h.deeds, Deeds.records_append, h.records, List.append_nil]) h.sending

theorem takes_handled (s : Session) (m : Message) :
    Takes [.handled m] s (s.happened (.handled m)) :=
  ⟨by simp [deeds_happened, Event.isDeed], rfl, rfl, rfl⟩

theorem takes_same (hd : s'.deeds = s.deeds) (hl : s'.layer.sending = s.layer.sending)
    (ht : s'.traffic = s.traffic) : Takes [] s s' :=
  ⟨by rw [hd, List.append_nil], rfl, hl, ht⟩

theorem Opens.takes {r : Record} (h : s.Opens r s') :
    Takes [.opened s.layer.receiving.isActive r] s s' := by
  obtain ⟨wire, d, -, rfl⟩ := h
  exact ⟨by simp [deeds_happened, Event.isDeed]; rfl, rfl, rfl, rfl⟩

theorem Hears.takes (h : s.Hears s') : ∃ es, Takes es s s' ∧ handled es = [] := by
  cases h with
  | nothing => exact ⟨[], takes_same rfl rfl rfl, rfl⟩
  | unopened wire e d h => exact ⟨[], takes_same rfl rfl rfl, rfl⟩
  | opened r s' h => exact ⟨_, h.takes, rfl⟩

/-- Opening a record does not change whether records need keys. -/
theorem Opens.isActive {r : Record} (h : s.Opens r s') :
    s'.layer.receiving.isActive = s.layer.receiving.isActive := by
  obtain ⟨wire, d, hd, rfl⟩ := h
  show d.isActive = _
  unfold Direction.unprotect at hd
  split at hd
  · cases hd
    rfl
  · split at hd
    · cases hd
    · obtain ⟨-, rfl⟩ := Prod.mk.inj hd
      rfl

/-! ## Bytes that were opened -/

/-- Nothing needs keys, and what was opened is what was handled and what is pending. -/
structure ReadsClear (s : Session) (pending : Bytes) : Prop where
  active : s.layer.receiving.isActive = false
  clear : opened false s.deeds = taken s.deeds ++ pending
  keyed : opened true s.deeds = []

/-- Everything needs keys: what was opened without is handled, and what was opened with them is
pending. -/
structure ReadsKeyed (s : Session) (pending : Bytes) : Prop where
  active : s.layer.receiving.isActive = true
  clear : opened false s.deeds = taken s.deeds
  keyed : opened true s.deeds = pending

variable {pending : Bytes}

theorem ReadsClear.talks (h : s.ReadsClear pending) (ht : Talks s s') : s'.ReadsClear pending := by
  obtain ⟨es, hes, hall⟩ := ht.deeds
  refine ⟨by rw [ht.receiving, h.active], ?_, ?_⟩
  · rw [hes, Deeds.opened_append, Deeds.taken_append, Deeds.opened_talk _ hall,
      Deeds.taken_talk hall, List.append_nil, List.append_nil, h.clear]
  · rw [hes, Deeds.opened_append, Deeds.opened_talk _ hall, List.append_nil, h.keyed]

theorem ReadsKeyed.talks (h : s.ReadsKeyed pending) (ht : Talks s s') : s'.ReadsKeyed pending := by
  obtain ⟨es, hes, hall⟩ := ht.deeds
  refine ⟨by rw [ht.receiving, h.active], ?_, ?_⟩
  · rw [hes, Deeds.opened_append, Deeds.taken_append, Deeds.opened_talk _ hall,
      Deeds.taken_talk hall, List.append_nil, List.append_nil, h.clear]
  · rw [hes, Deeds.opened_append, Deeds.opened_talk _ hall, List.append_nil, h.keyed]

theorem opened_opened (keyed k : Bool) (r : Record) :
    opened keyed [.opened k r] = if k = keyed then r.handshakePayload else [] := by
  rw [opened, List.flatMap_singleton, Event.openedBytes_opened]

theorem ReadsClear.opens (h : s.ReadsClear pending) {r : Record} (ho : s.Opens r s') :
    s'.ReadsClear (pending ++ r.handshakePayload) := by
  refine ⟨ho.isActive.trans h.active, ?_, ?_⟩ <;>
    rw [ho.takes.deeds, Deeds.opened_append, opened_opened, h.active]
  · rw [Deeds.taken_append, Deeds.taken_opened, if_pos rfl, h.clear, List.append_nil,
      List.append_assoc]
  · rw [if_neg (by decide), h.keyed, List.append_nil]

theorem ReadsKeyed.opens (h : s.ReadsKeyed pending) {r : Record} (ho : s.Opens r s') :
    s'.ReadsKeyed (pending ++ r.handshakePayload) := by
  refine ⟨ho.isActive.trans h.active, ?_, ?_⟩ <;>
    rw [ho.takes.deeds, Deeds.opened_append, opened_opened, h.active]
  · rw [Deeds.taken_append, Deeds.taken_opened, if_neg (by decide), h.clear, List.append_nil]
  · rw [if_pos rfl, h.keyed]

/-- Handling the first of what is pending leaves the rest. -/
theorem ReadsClear.handles {m : Message}
    (h : s.ReadsClear (Transcript.contribution m ++ pending)) (ht : Takes [.handled m] s s')
    (hr : s'.layer.receiving = s.layer.receiving) : s'.ReadsClear pending := by
  refine ⟨hr ▸ h.active, ?_, ?_⟩ <;> rw [ht.deeds, Deeds.opened_append]
  · rw [Deeds.taken_append, Deeds.taken_handled, Deeds.opened_handled, h.clear, List.append_nil,
      List.append_assoc]
  · rw [h.keyed, Deeds.opened_handled, List.append_nil]

end Session

end TlsClient
