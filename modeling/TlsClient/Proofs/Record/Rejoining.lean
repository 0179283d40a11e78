import TlsClient.Proofs.Record.Fragments
import TlsClient.Proofs.Record.Joining

/-!
# What was cut comes together again

The fragments of a record carry its payload in as few records as it takes (`Record.fragmented`).  A message
that is cut into fragments comes out of a joiner that waits for nothing, which then waits for nothing again
(`HandshakeJoiner.pushAll_fragments`), and so do messages one after another (`HandshakeJoiner.pushAll_messages`).
-/

namespace TlsClient

namespace Record

/-- How the fragments of a record stand to it. -/
structure Fragmented (r : Record) (fragments : List Record) : Prop where
  kind : ∀ x ∈ fragments, x.typ = r.typ ∧ x.version = r.version
  length_le : ∀ x ∈ fragments, x.payload.length ≤ 16384
  carries : fragments.flatMap Record.payload = r.payload
  nonempty : r.payload ≠ [] → ∀ x ∈ fragments, x.payload ≠ []
  empty : r.payload = [] → fragments = [r]
  count : fragments.length = max 1 (r.payload.length ⌈/⌉ 16384)

theorem fragmented (r : Record) : r.Fragmented r.fragments where
  kind x hx := ⟨(of_mem_fragments hx).1, (of_mem_fragments hx).2.1⟩
  length_le x hx := (of_mem_fragments hx).2.2
  carries := flatMap_fragments r
  nonempty h x hx := payload_ne_nil_of_mem_fragments h hx
  empty h := by rw [fragments, if_pos (List.isEmpty_iff.mpr h)]
  count := by
    by_cases h : r.payload = []
    · rw [fragments, if_pos (List.isEmpty_iff.mpr h), h]
      rfl
    · have hpos : 0 < r.payload.length := List.length_pos_iff.mpr h
      rw [length_fragments h]
      show r.payload.length ⌈/⌉ 16384 = _
      rw [Nat.ceilDiv_eq_add_pred_div]
      omega

end Record

/-- A message that can be written, with a body that is not too long to be joined. -/
def Message.Sendable (m : Message) : Prop :=
  ∃ parsed, m.body = .ofHandshake parsed ∧ parsed.Fits ∧ parsed.body.length ≤ 0xffff

namespace HandshakeJoiner

variable {j j' : HandshakeJoiner}

theorem pushAll_append {rs : List Record} (h : j.pushAll rs = .ok j') (rs' : List Record) :
    j.pushAll (rs ++ rs') = j'.pushAll rs' := by
  induction rs generalizing j with
  | nil =>
    cases h
    rfl
  | cons r rs ih =>
    rw [List.cons_append, pushAll]
    rw [pushAll] at h
    rcases hpush : j.push r with ⟨e | n, j₁⟩
    · rw [hpush] at h
      cases h
    · rw [hpush] at h
      exact ih h

/-- The fragments of a message make it up again. -/
theorem pushAll_fragments {m : HandshakeMessage} (v : ProtocolVersion)
    (hm : (Wire.decode : Decoder HandshakeMessage).run (Wire.encode m) = .ok (m, []))
    (hbody : m.body.length ≤ maxBody) (hj : j.buffer = []) :
    j.pushAll (Message.mk v (.ofHandshake m)).toRecord.fragments =
      .ok { ready := j.ready ++ [⟨v, .ofHandshake m⟩], buffer := [] } := by
  set r := (Message.mk v (.ofHandshake m)).toRecord
  have hpayload : r.payload = Wire.encode m := rfl
  have hfragmented := r.fragmented
  have hne : r.payload ≠ [] := by
    rw [hpayload, HandshakeMessage.encode_eq]
    exact List.cons_ne_nil _ _
  refine pushAll_pieces hm hbody ?_ (fun x hx => ⟨(hfragmented.kind x hx).2, hfragmented.nonempty hne x hx⟩) ?_
  · intro hnil
    have hcount := hfragmented.count
    rw [hnil, List.length_nil] at hcount
    omega
  · rw [hj, List.nil_append, hfragmented.carries, hpayload]

/-- The fragments of messages make them up again, one after another. -/
theorem pushAll_messages {ms : List Message} (h : ∀ m ∈ ms, m.Sendable) (hj : j.buffer = []) :
    j.pushAll (ms.flatMap fun m => m.toRecord.fragments) = .ok { ready := j.ready ++ ms, buffer := [] } := by
  induction ms generalizing j with
  | nil =>
    obtain ⟨ready, buffer⟩ := j
    obtain rfl : buffer = [] := hj
    rw [List.append_nil]
    rfl
  | cons m ms ih =>
    obtain ⟨⟨parsed, hparsed, hfits, hbody⟩, hms⟩ := List.forall_mem_cons.mp h
    have hm : m = ⟨m.version, .ofHandshake parsed⟩ := by rw [← hparsed]
    have hread := HandshakeMessage.decode_written hfits (Nat.lt_of_le_of_lt hbody (by decide)) []
    rw [List.append_nil] at hread
    have hfirst := pushAll_fragments m.version hread hbody hj
    rw [← hm] at hfirst
    rw [List.flatMap_cons, pushAll_append hfirst, ih hms rfl, List.append_assoc, List.singleton_append]

/-- Cutting messages for sending and joining what was cut gives the messages again. -/
theorem pushAll_cut {ms : List Message} (h : ∀ m ∈ ms, m.Sendable) :
    pushAll {} (ms.flatMap fun m => m.toRecord.fragments) = .ok { ready := ms, buffer := [] } ∧
      ∀ r : Record, r.Fragmented r.fragments :=
  ⟨pushAll_messages h rfl, Record.fragmented⟩

/-- The body of the second message takes two fragments, of which the first has the header in it. -/
theorem pushAll_cut_finished :
    let ms := [Message.ofHandshake .serverHelloDone, Message.ofHandshake (.finished (List.replicate 20000 0))]
    (∀ m ∈ ms, m.Sendable) ∧
      pushAll {} (ms.flatMap fun m => m.toRecord.fragments) = .ok { ready := ms, buffer := [] } := by
  intro ms
  have hms : ∀ m ∈ ms, m.Sendable := by
    simp only [ms, List.forall_mem_cons, List.not_mem_nil, false_imp_iff, implies_true, and_true]
    refine ⟨⟨_, rfl, trivial, by decide⟩, ⟨_, rfl, trivial, ?_⟩⟩
    show (List.replicate 20000 (0 : UInt8)).length ≤ 0xffff
    rw [List.length_replicate]
    decide
  exact ⟨hms, (pushAll_cut hms).1⟩

end HandshakeJoiner

end TlsClient
