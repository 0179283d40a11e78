import TlsClient.Proofs.Connection.Completing
import TlsClient.Proofs.Connection.Grounds

/-!
# The key change

The records that a client queues split at its signal of the key change: up to it nothing is protected,
and after it everything is sealed under the keys of the reply, numbered from zero.  Data waits for the
server's Finished (`sent_splits`).
-/

namespace TlsClient

open Deeds (handled wire opened taken)

/-- A record that was queued without protection, and is neither the signal of the key change nor
data. -/
def Record.Unprotected (plain wire : Record) : Prop :=
  wire = plain ∧ plain.typ ≠ .changeCipherSpec ∧ plain.typ ≠ .applicationData

/-- Among some deeds is a Finished of the server's that proves all handshake bytes before it. -/
def Secrets.ServerProves (secrets : Secrets) (es : List Event) : Prop :=
  ∃ before m encoded after, es = before ++ .handled m :: after ∧
    m.body = .handshake (.finished (secrets.serverVerify (Transcript.digest (wire before)))) encoded

/-- A session that has signalled the key change: where its deeds and its records split. -/
structure Session.Split (s : Session) (secrets : Secrets) (p : Protection) (before after : List Event)
    (clear sealed : List (Record × Record)) : Prop where
  keys : secrets.sending = .ok p
  deeds : s.deeds = before ++ .sent (secrets.clientFinished before) :: after
  records : s.sent = clear ++ (Record.keyChange, Record.keyChange) :: sealed
  clear : ∀ x ∈ clear, Record.Unprotected x.1 x.2
  first : sealed.head?.map Prod.fst = some (secrets.clientFinished before).toRecord
  seals : ∃ q, p.Seals sealed q
  length : sealed.length ≤ Direction.hardLimit.toNat
  once : ∀ x ∈ sealed, x.1.typ ≠ .changeCipherSpec
  data : ∀ earlier plain wire later, s.deeds = earlier ++ .queued plain wire :: later →
    plain.typ = .applicationData → secrets.ServerProves earlier

namespace Connection

variable {o : Origin} {r : Reply}

theorem Made.sending {es : List Event} (h : r.Made o es) : r.secrets.sending = .ok r.sending := by
  obtain ⟨before, after, -, hfinishes⟩ := h
  obtain ⟨flight, key, request, m, src, src', -, hreply⟩ := hfinishes.answers
  exact hreply.sending

theorem Verified.serverProves {es : List Event} (h : r.Verified es) : r.secrets.ServerProves es := by
  obtain ⟨before, m, proof, encoded, after, rfl, hm, rfl, -⟩ := h
  exact ⟨before, m, encoded, after, rfl, hm⟩

/-- A session that has sealed everything since a reply is split. -/
theorem Replied.split {s : Session} (h : s.Replied o r) (hs : Deeds.Justified o.Explains s.deeds) :
    ∃ before after clear sealed, s.Split r.secrets r.sending before after clear sealed ∧
      ∃ src, o.Course (handled before) (.keyChange r.secrets
        (wire before ++ Transcript.contribution (r.secrets.clientFinished before))) src := by
  obtain ⟨clear, wire, rest, q, hrecords, hclear, honce, hseals, hlength, -⟩ := h.isSealed.split
  obtain ⟨before, after, hdeeds, hfinishes⟩ := h.made
  have hmessage := Finishes.message hfinishes
  refine ⟨before, after, clear, (r.finishedRecord, wire) :: rest, ⟨Made.sending h.made, ?_, ?_, hclear,
    ?_, ⟨q, hseals⟩, hlength, honce, ?_⟩, Finishes.course hfinishes⟩
  · rw [hdeeds, hmessage]
  · rw [Session.sent_eq, hrecords]
  · rw [← hmessage]
    rfl
  · intro earlier plain wire later hsplit ht
    obtain ⟨r', hmade, hverified⟩ := hs earlier _ later hsplit ht
    have hr : r = r' := by
      have hm := h.made
      rw [hsplit] at hm
      exact hmade.unique hm
    exact Verified.serverProves (hr ▸ hverified)

variable {config : Config} {time : Int} {random : RandomSource} {c : Connection}

/-- Whatever the user and the server do, the records that a client queues are all unprotected, or they
split at one signal of the key change: the client's Finished is the first of those after it, which are
all sealed in their order, and before data the server's Finished has been verified. -/
theorem sent_splits (h : Connection.start config time random = .ok c) (calls : List Call) :
    (∀ x ∈ (c.run calls).session.sent, Record.Unprotected x.1 x.2) ∨
      ∃ secrets p before after clear sealed,
        (c.run calls).session.Split secrets p before after clear sealed ∧
        c.Reaches before (.keyChange secrets
          (wire before ++ Transcript.contribution (secrets.clientFinished before))) := by
  obtain ⟨o, hello, hstarts, -⟩ := start_starts h
  rcases (hstarts.sound_run calls).phase.kept with hclear | ⟨r, hreplied, -⟩
  · left
    rw [Session.sent_eq]
    exact hclear.records
  · obtain ⟨before, after, clear, sealed, hsplit, src, hcourse⟩ :=
      Replied.split hreplied (hstarts.grounds calls)
    exact .inr ⟨r.secrets, r.sending, before, after, clear, sealed, hsplit, hstarts.reaches hcourse⟩

/-- After the key change of both sides the user writes and closes: what was written waits, and the close
notification is sealed after the client's Finished. -/
theorem sent_splits_closed : ∃ c calls secrets p before after clear sealed,
    Connection.start .acquainted 0 (.seeded [] 0 none) = .ok c ∧
    calls = Call.acquaint ++ [.write [1, 2, 3], .close] ∧ (c.run calls).session.sent.length = 5 ∧
    (c.run calls).session.Split secrets p before after clear sealed ∧
    c.Reaches before (.keyChange secrets
      (wire before ++ Transcript.contribution (secrets.clientFinished before))) := by
  obtain ⟨c, secrets, t, p, hc, -⟩ := run_acquainted
  set calls := Call.acquaint ++ [.write [1, 2, 3], .close] with hcalls
  have htypes : (c.run calls).session.sent.map (fun x => x.1.typ)
      = [.handshake, .handshake, .changeCipherSpec, .handshake, .alert] := by
    apply of_start hc
    decide +kernel
  have hlength : (c.run calls).session.sent.length = 5 := by
    rw [← List.length_map, htypes]
    rfl
  rcases sent_splits hc calls with hclear | ⟨secrets, p, before, after, clear, sealed, hsplit, hreaches⟩
  · -- the signal of the key change is not among unprotected records
    have hmem : ContentType.changeCipherSpec ∈ (c.run calls).session.sent.map fun x => x.1.typ := by
      rw [htypes]
      simp
    obtain ⟨x, hx, htyp⟩ := List.mem_map.mp hmem
    exact absurd htyp (hclear x hx).2.1
  · exact ⟨c, calls, secrets, p, before, after, clear, sealed, hc, hcalls, hlength, hsplit, hreaches⟩

end Connection

end TlsClient
