import TlsClient.Proofs.Connection.Boundaries
import TlsClient.Proofs.Connection.Holding
import TlsClient.Proofs.Record.Capacity

/-!
# How much a peer can make a connection keep

Whatever the server sends, after everything that has arrived was taken in a connection keeps less than a
record, less than a handshake message and less than an alert (`buffers_bounded`).  And it does not get
stuck on the way there: a buffer that is full can be taken in.
-/

namespace TlsClient

namespace Connection

variable {config : Config} {time : Int} {random : RandomSource} {c c' : Connection}

/-- A connection that keeps nothing that is whole: the beginning of a record, of a handshake message and
of an alert, each no longer than it may be. -/
structure Bounded (c : Connection) : Prop where
  room : c.deframer.buffer.length < 18437 ∧ c.deframer.isFull = false
  record : ∀ r : Record, r.payload.length < 256 ^ 2 → ¬ r.encode <+: c.deframer.buffer
  told : c.handshakes.ready = []
  message : HandshakeJoiner.Begins c.handshakes.buffer ∧ c.handshakes.buffer.length ≤ 4 + 0xffff - 1
  heard : c.alerts.ready = []
  alert : c.alerts.buffer.length ≤ 1

/-- Each of the three is bounded for a reason of its own: the deframer has nothing to give, the joiner has cut
out every message, and of the alerts half of one is left at most. -/
theorem Heeds.bounded (h : c.Heeds) (hpop : c.deframer.pop.1 = .ok none)
    (hready : c.handshakes.ready = [])
    (hfront : HandshakeJoiner.front c.handshakes.buffer = .incomplete) : c.Bounded := by
  have hbegins := HandshakeJoiner.begins_of_front hfront
  have hroom := Record.length_lt_of_undecided (Deframer.undecided_of_pop hpop)
  have halerts := h.alerts
  constructor
  case room => exact ⟨hroom, beq_eq_false_iff_ne.mpr (Nat.ne_of_lt hroom)⟩
  case record => exact fun r hr => Deframer.not_prefix_of_pop hpop hr
  case told => exact hready
  case message => exact ⟨hbegins, hbegins.length_le⟩
  case heard => rw [halerts]
  case alert =>
    rw [halerts]
    exact AlertJoiner.length_pairs _

/-- After everything that has arrived was taken in, and as long as the server has not closed its side, little
is kept; and a buffer that is full always has an answer. -/
theorem buffers_bounded (h : Connection.start config time random = .ok c) (calls : List Call)
    {io : IoState} (hprocess : (c.run calls).process = (.ok io, c'))
    (hopen : c'.session.closeReceived = false) :
    c'.Bounded ∧ ∀ d : Deframer, d.isFull = true → d.buffer.length = 18437 ∧ d.Yields := by
  refine ⟨?_, fun d hfull => ⟨beq_iff_eq.mp hfull, Deframer.yields hfull⟩⟩
  obtain ⟨o, hello, hstarts, -⟩ := start_starts h
  obtain ⟨⟨stage, hok⟩, hdone⟩ := process_settled hprocess
  have hpop : c'.deframer.pop.1 = .ok none := hdone.resolve_left (by simp [hopen])
  -- taking in is itself a call, so that the connection it leads to is one of the run
  have hreached : c.run (calls ++ [.process]) = c' := by
    rw [run_append]
    exact congrArg Prod.snd hprocess
  have hmoment := moment_run h (calls ++ [.process])
  have hbegun := hstarts.run_begun (calls ++ [.process])
  rw [hreached] at hmoment hbegun
  exact (hmoment.heeds hok hopen).bounded hpop (hmoment.drained stage hok)
    (hbegun stage hok)

/-- The server sends half an alert, the first bytes of a message and those of the next record. -/
theorem buffers_bounded_closed :
    ∃ c c' io, Connection.start .distrustful 0 (.seeded [] 0 none) = .ok c ∧
      (c.run [.readTls { deliveries := [.data [21, 3, 1, 0, 1, 1, 22, 3, 1, 0, 2, 14, 0, 22, 3]] }]).process
        = (.ok io, c') ∧
      c'.session.closeReceived = false ∧
      (c'.deframer.buffer, c'.handshakes.buffer, c'.alerts.buffer) = ([22, 3], [14, 0], [1]) ∧
      c'.Bounded ∧ ∀ d : Deframer, d.isFull = true → d.buffer.length = 18437 ∧ d.Yields := by
  obtain ⟨c, hc⟩ := start_distrustful
  set calls : List Call :=
    [.readTls { deliveries := [.data [21, 3, 1, 0, 1, 1, 22, 3, 1, 0, 2, 14, 0, 22, 3]] }]
  obtain ⟨hisok, hopen, hbuffers⟩ : (c.run calls).process.1.isOk = true ∧
      (c.run calls).process.2.session.closeReceived = false ∧
      ((c.run calls).process.2.deframer.buffer, (c.run calls).process.2.handshakes.buffer,
        (c.run calls).process.2.alerts.buffer) = ([22, 3], [14, 0], [1]) := by
    apply of_start hc
    decide +kernel
  rcases hprocess : (c.run calls).process with ⟨e | io, c'⟩
  all_goals rw [hprocess] at hisok hopen hbuffers
  · cases hisok
  · exact ⟨c, c', io, hc, hprocess, hopen, hbuffers, buffers_bounded hc calls hprocess hopen⟩

end Connection

end TlsClient
