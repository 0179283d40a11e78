import TlsClient.Proofs.Connection.Holding

/-!
# What a read comes to

A read gives what waits to be read.  Where nothing waits, the stream of plaintext has ended if the peer has
closed its side; otherwise nothing can come if the connection has failed, and something may come if not
(`Tells`).  The end that a read tells is an orderly one unless it is the close notification itself that cut the
handshake short, or the transport has failed after it (`read_tells`).
-/

namespace TlsClient

/-- What a read of up to `n` bytes tells. -/
structure Connection.Tells (c : Connection) (n : Nat) (result : Except IoError Bytes) : Prop where
  data : (∃ bs, bs ≠ [] ∧ result = .ok bs) ↔ c.session.incoming.toBytes ≠ []
  front : ∀ bs, result = .ok bs → bs = c.session.incoming.toBytes.take n
  ended : result = .ok [] ↔ c.session.incoming.toBytes = [] ∧ c.session.closeReceived = true
  failed : (∃ e, result = .error e ∧ e.kind = .notConnected) ↔
    c.session.incoming.toBytes = [] ∧ c.session.closeReceived = false ∧ c.progress = .failed
  waiting : (∃ e, result = .error e ∧ e.kind = .wouldBlock) ↔
    c.session.incoming.toBytes = [] ∧ c.session.closeReceived = false ∧ c.progress ≠ .failed

namespace Session

variable {s : Session} {n : Nat}

/-- What a read gives is the front of what waits. -/
theorem read_data (hn : 0 < n) (h : s.incoming.toBytes ≠ []) :
    (s.incoming.toBytes.take n) ≠ [] ∧ (s.read n).1 = .ok (s.incoming.toBytes.take n) := by
  have hbytes : (s.incoming.read n).1 = s.incoming.toBytes.take n := ByteQueue.takeChunks_eq n _
  have htaken : s.incoming.toBytes.take n ≠ [] := by
    intro hnil
    rcases List.take_eq_nil_iff.mp hnil with h₀ | h₀
    · omega
    · exact h h₀
  refine ⟨htaken, ?_⟩
  unfold Session.read
  dsimp only
  rw [hbytes, if_pos (by simp [htaken])]

/-- Where nothing waits, a read tells how the session stands. -/
theorem read_none (hn : 0 < n) (h : s.incoming.toBytes = []) : (s.read n).1 =
    if s.closeReceived = true then .ok []
    else if s.status = .closed then .error TlsError.connectionClosed.toIo
    else .error IoErrorKind.wouldBlock.failure := by
  have hbytes : (s.incoming.read n).1 = [] := by
    rw [ByteQueue.read, ByteQueue.takeChunks_eq]
    exact (congrArg (List.take n) h).trans List.take_nil
  have hne : (n == 0) = false := by simpa using Nat.pos_iff_ne_zero.mp hn
  unfold Session.read
  dsimp only
  rw [hbytes, hne]
  simp only [List.isEmpty_nil, Bool.not_true, Bool.false_or]

end Session

namespace Connection

variable {c c₀ : Connection} {n : Nat} {config : Config} {time : Int} {random : RandomSource}

theorem Stands.tells (h : c₀.Stands c) (hn : 0 < n) : c.Tells n (c.read n).1 := by
  show c.Tells n (c.session.read n).1
  by_cases hdata : c.session.incoming.toBytes = []
  · have hread := Session.read_none hn hdata
    have hstatus := h.closed_iff
    rw [← progress_failed_iff] at hstatus
    cases hclose : c.session.closeReceived with
    | true =>
      rw [hclose, if_pos rfl] at hread
      rw [hread]
      constructor <;> simp [hdata, hclose]
    | false =>
      rw [hclose, if_neg (by decide)] at hread
      by_cases hfailed : c.progress = .failed
      · rw [if_pos (hstatus.mpr (.inr hfailed))] at hread
        rw [hread]
        constructor <;> simp [hdata, hclose, hfailed, TlsError.toIo]
      · rw [if_neg (by simpa [hclose, hfailed] using hstatus)] at hread
        rw [hread]
        constructor <;> simp [hdata, hclose, hfailed, IoErrorKind.failure]
  · obtain ⟨htaken, hread⟩ := Session.read_data hn hdata
    rw [hread]
    constructor <;> simp [hdata, htaken]

/-- Whatever was called before, a read gives what waits to be read.  Where nothing waits it tells the end just
if the peer has closed its side, a failure just if the connection has failed and the peer has not closed, and
that more may come otherwise.  Where the peer has closed its side, the connection has not failed, unless the
close notification has cut the handshake short or the transport has failed. -/
theorem read_tells (h : Connection.start config time random = .ok c) (calls : List Call) (hn : 0 < n) :
    (c.run calls).Tells n ((c.run calls).read n).1 ∧
    ((c.run calls).session.closeReceived = true → (c.run calls).progress ≠ .failed ∨
      (c.run calls).stage = .error (.alertReceived .closeNotify) ∧ (c.run calls).isHandshaking = true ∨
      ∃ why, (c.run calls).stage = .error (.transport why)) := by
  obtain ⟨-, hstands⟩ := run_orderly h calls
  refine ⟨hstands.tells hn, fun hclosed => ?_⟩
  rcases (run_regular h calls).closed hclosed with ⟨⟨stage, hok⟩, -⟩ | ⟨hcut, hearly⟩ | hlost
  · left
    intro hfailed
    obtain ⟨e, he⟩ := progress_failed_iff.mp hfailed
    cases he.symm.trans hok
  · right; left
    exact ⟨hcut, by rw [isHandshaking, Session.isHandshaking, hearly]; rfl⟩
  · exact .inr (.inr hlost)

/-- A connection that has just started has taken in no part of an alert. -/
theorem start_alerts (h : Connection.start config time random = .ok c) : c.alerts = {} := by
  obtain ⟨o, hello, hstart, -⟩ := start_starts h
  have hheeds : c.Heeds := (moment_run h []).heeds hstart.stage hstart.closeReceived
  have hbytes : Deeds.alertBytes c.session.deeds = [] := by
    rw [hstart.deeds]
    refine List.flatMap_eq_nil_iff.mpr fun e he => ?_
    rcases List.mem_cons.mp he with rfl | he
    · rfl
    · obtain ⟨r, -, rfl⟩ := List.mem_map.mp he
      rfl
  rw [hheeds.alerts, Deeds.half, hbytes]
  rfl

/-- The first record is noticed as a close notification, and cannot be taken in. -/
theorem Starts.notices {o : Origin} {hello : ClientHello} (hstart : c.Starts o hello)
    (halerts : c.alerts = {}) {wire : Record} (hwire : wire = Alert.record ⟨.warning, .closeNotify⟩) :
    ∃ e c', c.takeRecord o.stage wire = (.error e, c') ∧ c'.session.closeReceived = true ∧
      c'.session.traffic = false := by
  have hopens : c.session.layer.receiving.unprotect wire = (.ok wire, {}) := by
    rw [hstart.layer]
    rfl
  set s := ({ c.session with layer := { c.session.layer with receiving := {} } } : Session).happened
    (.opened c.session.layer.receiving.isActive wire) with hs
  obtain ⟨s₁, hquiet, hfind⟩ :=
    Session.receiveAlerts_find (s := s) hstart.closeReceived [⟨.warning, .closeNotify⟩]
  have htake : (c.takeRecord o.stage wire).2.session = s₁.receiveClose.2 := by
    rw [takeRecord_opened hopens, takeOpened, if_neg (by rw [hstart.handshakes, hwire]; decide),
      if_neg (by rw [hwire]; decide), if_pos (by rw [hwire]; rfl),
      takeAlerts_eq (c := { c with session := s }) (show c.alerts = { buffer := [] } from halerts), hwire]
    exact congrArg Prod.snd hfind
  have hnoticed : (c.takeRecord o.stage wire).2.session.closeReceived = true := by
    rw [htake]
    exact (Session.receiveClose_result s₁).1
  have hearly : (c.takeRecord o.stage wire).2.session.traffic = false := by
    rw [htake, (Session.talks_receiveClose s₁).traffic, hquiet.traffic]
    exact hstart.traffic
  have herror := (takeRecord_collects hstart.closeReceived o.stage wire).closed hnoticed
  rw [if_neg (by rw [hearly]; decide)] at herror
  exact ⟨_, _, Prod.ext herror rfl, hnoticed, hearly⟩

/-- A close notification before the key change fails the connection, and is noticed all the same. -/
theorem Starts.cutShort {o : Origin} {hello : ClientHello} (hstart : c.Starts o hello)
    (halerts : c.alerts = {}) {wire : Record} (hwire : wire = Alert.record ⟨.warning, .closeNotify⟩) :
    (c.run [.readTls { deliveries := [.data wire.encode] }, .process]).progress = .failed ∧
      (c.run [.readTls { deliveries := [.data wire.encode] }, .process]).session.closeReceived = true ∧
      (c.run [.readTls { deliveries := [.data wire.encode] }, .process]).session.traffic = false := by
  have hfits : wire.Fits := hwire ▸ ⟨rfl, by decide⟩
  have hpop : (c.extend wire.encode).deframer.pop = (.ok (some wire), c.deframer) := by
    rw [extend, hstart.deframer]
    exact Deframer.pop_encode rfl hfits (List.append_nil _).symm
  obtain ⟨e, c', htake, hnoticed, hearly⟩ := hstart.notices halerts hwire
  have hprocess : (c.extend wire.encode).process = (.error e, c'.fail e) := by
    rw [process_drain (c := c.extend wire.encode) hstart.stage,
      drain_record (c := c.extend wire.encode) (by simp [extend, hstart.closeReceived]) hpop,
      show ({ c.extend wire.encode with deframer := c.deframer } : Connection).takeRecord o.stage wire
        = (.error e, c') from htake]
  have hrun : c.run [.readTls { deliveries := [.data wire.encode] }, .process] = c'.fail e := by
    rw [run_cons, readTls_wire hstart.stage hstart.closeReceived hstart.deframer hfits]
    exact congrArg Prod.snd hprocess
  rw [hrun]
  exact ⟨rfl, (Session.abort_keepsOpen _ _).trans hnoticed, (Session.talks_abort _ _).traffic.trans hearly⟩

/-- A close notification that cuts the handshake short is read as the end, though the connection has failed. -/
theorem read_tells_closed : ∃ c calls, Connection.start .distrustful 0 (.seeded [] 0 none) = .ok c ∧
    calls = [.readTls { deliveries := [.data [21, 3, 1, 0, 2, 1, 0]] }, .process] ∧
    (c.run calls).progress = .failed ∧ ((c.run calls).read 1).1 = .ok [] ∧
    (c.run calls).Tells 1 ((c.run calls).read 1).1 := by
  obtain ⟨c, hc⟩ := start_distrustful
  obtain ⟨o, hello, hstart, -⟩ := start_starts hc
  set calls : List Call := [.readTls { deliveries := [.data [21, 3, 1, 0, 2, 1, 0]] }, .process]
  obtain ⟨hfailed, hnoticed, hearly⟩ := hstart.cutShort (start_alerts hc) rfl
  have hnothing : (c.run calls).session.incoming.toBytes = [] :=
    congrArg ByteQueue.toBytes ((run_regular hc calls).unread hearly)
  obtain ⟨htells, -⟩ := read_tells hc calls Nat.one_pos
  exact ⟨c, calls, hc, rfl, hfailed, htells.ended.mpr ⟨hnothing, hnoticed⟩, htells⟩

end Connection

end TlsClient
