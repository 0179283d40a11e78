import TlsClient.Proofs.Connection.Completing
import TlsClient.Proofs.Connection.Declining
import TlsClient.Proofs.Stream.Reading

/-!
# The end of a stream

A read that gives nothing tells the end of the stream: the peer has closed its side, or a read of the transport
gave nothing.  There is one more case, which is no end: a request for another handshake was declined, and
completing did no more than to write that out (`read_ended`).  It does come about, whatever the transport has
to give after the request (`read_declined`).
-/

namespace TlsClient

open Relation (ReflTransGen)

namespace Transfer

variable {s s' : Stream} {moved : Nat × Nat} {n : Nat}

/-! ## One pass -/

/-- Where nothing waits, nothing is written. -/
theorem writeAll_idle (h : s.connection.wantsWrite = false) : writeAll.run s = (.ok 0, s) := by
  unfold writeAll
  rw [run_bind_get]
  cases s.transport.acceptances.length + s.connection.session.outgoing.chunks.length with
  | zero => rfl
  | succ fuel =>
    rw [writeUpTo, run_bind_ask, h]
    rfl

/-- After the handshake, where nothing waits, completing reads once and takes in what has arrived. -/
theorem completeIo_idle (h : s.connection.Reached) (hover : s.connection.isHandshaking = false)
    (hidle : s.connection.wantsWrite = false) (hrun : completeIo.run s = (.ok moved, s')) :
    ∃ s₁ io c, s.Fetches moved.1 s₁ ∧ s₁.connection.process = (.ok io, c) ∧
      s' = { s₁ with connection := c } := by
  have hends := completeIo_once h hover (up_of_completeIo hrun)
  rw [hrun] at hends
  cases hends with
  | returns hlast =>
    have hturned := s.turn_turned false (0, 0)
    rw [hlast] at hturned
    cases hturned with
    | written hwrite hwas hw =>
      rw [writeAll_idle hidle] at hwrite
      cases hwrite
      exact absurd hw (Nat.lt_irrefl 0)
    | @concludes w k s₁ s₂ io c hwrite hgo hfetch hprocess hover =>
      rw [writeAll_idle hidle] at hwrite
      cases hwrite
      refine ⟨s₂, io, c, ?_, hprocess, rfl⟩
      rw [Nat.zero_add]
      exact hfetch

/-- Nothing is given where the peer has closed its side. -/
theorem closed_of_actRead (hn : 0 < n) (h : (act fun c => c.read n).run s = (.ok [], s')) :
    s'.connection.session.closeReceived = true := by
  have hresult : (s.connection.session.read n).1 = .ok [] := congrArg Prod.fst h
  have hafter : s'.connection = (s.connection.read n).2 := congrArg (fun x => x.2.connection) h.symm
  rw [hafter]
  show s.connection.session.closeReceived = true
  by_contra hopen
  unfold Session.read at hresult
  dsimp only at hresult
  split at hresult
  · next hgiven =>
    rw [Except.ok.inj hresult] at hgiven
    simp only [List.isEmpty_nil, Bool.not_true, Bool.false_or, Bool.or_eq_true, beq_iff_eq] at hgiven
    rcases hgiven with hnone | hclose
    · omega
    · exact hopen hclose
  · split at hresult <;> cases hresult

/-- A last pass that gives nothing: the peer has closed its side, or completing has read nothing. -/
theorem reading_nil (hn : 0 < n) (h : (reading n ()).run s = (.ok (.inl []), s')) :
    s'.connection.session.closeReceived = true ∨
      s.connection.wantsRead = true ∧ ∃ moved s₁, completeIo.run s = (.ok moved, s₁) ∧ moved.1 = 0 ∧
        s' = { s₁ with connection := s₁.connection.process.2 } := by
  have hact : ∀ t : Stream, ((act fun c => c.read n) >>= fun bs => pure (.inl bs) :
      Transfer (Bytes ⊕ Unit)).run t = (.ok (.inl []), s') →
      s'.connection.session.closeReceived = true := by
    intro t ht
    obtain ⟨bs, t', hread, hrest⟩ := ok_of_bind ht
    cases hrest
    exact closed_of_actRead hn hread
  unfold reading at h
  rw [run_bind_ask] at h
  split at h
  · exact .inl (hact s h)
  · next hwants =>
    obtain ⟨moved, s₁, hcomplete, hrest⟩ := ok_of_bind h
    split at hrest
    · cases hrest
    · next hnone =>
      rw [run_bind_process] at hrest
      split at hrest
      · split at hrest
        · cases hrest
          exact .inr ⟨by simpa using hwants, moved, s₁, hcomplete, by simpa using hnone, rfl⟩
        · exact .inl (hact _ hrest)
      · exact .inl (hact _ hrest)

end Transfer

/-! ## A request that ends a read -/

/-- A request for another handshake, in a record of its own. -/
def Record.asking : Record := ⟨.handshake, .tls1, [0, 0, 0, 0]⟩

namespace Connection

variable {c : Connection} {p : Protection} {k : UInt64} {n : Nat} {stage : Stage} {wire : Record}

/-- Writing out what waits changes nothing that matters to the server. -/
theorem Operating.written (h : c.Operating p k n) : c.written.Operating p k n :=
  ⟨⟨h.stage, h.opened, h.deframer, h.handshakes, h.receiving, h.iv⟩, h.traffic, h.room.of_eq rfl rfl rfl⟩

theorem Reached.written (h : c.Reached) : c.written.Reached := by
  obtain ⟨w, s, hwrite, hflushes⟩ :=
    Transfer.writeAll_flushes (s := ⟨c, {}⟩) h.regular.outgoing (Transport.reliable_of_nil rfl)
  have hreached := Transfer.reached_writeAll h hwrite
  rwa [hflushes.connection] at hreached

/-- A record that the transport has in one piece is read at once. -/
theorem readTls_delivered (hopen : c.session.closeReceived = false) (hempty : c.deframer = {})
    (hwire : wire.Fits) {t : Transport} {rest : List Delivery}
    (ht : t.deliveries = .data wire.encode :: rest) : c.readTls t =
      (.ok wire.encode.length, c.extend wire.encode, { t with deliveries := .data [] :: rest }) := by
  obtain ⟨l₁, l₂, -, henc⟩ := Record.encode_cons hwire.1 (Record.lt_of_le_maxPayload hwire.2)
  have hroom : wire.encode.length ≤ c.deframer.room := by
    rw [hempty, henc]
    exact Nat.add_le_add_right hwire.2 Record.headerLength
  have hread : t.read c.deframer.room =
      (.ok wire.encode, { t with deliveries := .data [] :: rest }) := by
    rw [Transport.read, ht, henc, Transport.receive, ← henc, List.take_of_length_le hroom,
      List.drop_of_length_le hroom]
  rw [readTls, if_neg (by simp [hopen]), if_neg (by rw [hempty]; decide), hread]
  dsimp only
  rw [Deframer.push_eq_extend hroom]
  rfl

/-- The request is declined. -/
theorem takeOpened_asking (hjoin : c.handshakes = {}) (ht : c.session.traffic = true) :
    c.takeOpened .traffic .asking
      = (.ok .traffic, { c with session := c.session.sendWarning .noRenegotiation }) := by
  have hpush : c.handshakes.push .asking = (.ok 1,
      { ready := [⟨.tls1, .handshake .helloRequest [0, 0, 0, 0]⟩], buffer := [] }) := by
    rw [hjoin]
    exact HandshakeJoiner.push_whole (by decide) rfl (by decide)
  have hhandshake : Record.asking.typ = .handshake := rfl
  rw [takeOpened, if_neg (by simp [hhandshake]), if_pos hhandshake, takeHandshakes, hpush]
  dsimp only
  rw [deliverAll, deliver, if_pos ⟨ht, rfl⟩]
  dsimp only
  rw [deliverAll, ← hjoin]

/-- After the handshake more is wanted of an open connection whose user has read all there is. -/
theorem wantsRead_of_traffic (hok : c.stage = .ok stage) (ht : c.session.traffic = true)
    (hopen : c.session.status = .opened) (hnothing : c.session.incoming = {}) : c.wantsRead = true := by
  rw [wantsRead, hok, isHandshaking, Session.isHandshaking, Session.hasPlaintext, ht, hopen, hnothing]
  rfl

theorem isHandshaking_of_traffic (ht : c.session.traffic = true) : c.isHandshaking = false := by
  rw [isHandshaking, Session.isHandshaking, ht]
  rfl

end Connection

namespace Session

variable {s : Session} {n : Nat}

/-- A warning takes one number, if there is one. -/
theorem Room.warned (h : s.Room (n + 1)) (d : AlertDescription) : (s.sendWarning d).Room n := by
  have hbegun : ((s.note (.sendingWarning d)).happened (.sent (.ofAlert ⟨.warning, d⟩))).Room (n + 1) :=
    h.of_eq rfl (by rw [sent_began, sent_note]) rfl
  have hsend : s.sendWarning d = ((s.note (.sendingWarning d)).happened
      (.sent (.ofAlert ⟨.warning, d⟩))).sendFragment (Alert.record ⟨.warning, d⟩) := by
    show List.foldl Session.sendFragment _ (Alert.record ⟨.warning, d⟩).fragments = _
    rw [fragments_record]
    rfl
  rw [hsend]
  exact hbegun.sendFragment (length_record _)

/-- So it waits to be written. -/
theorem Room.warns (h : s.Room (n + 1)) (d : AlertDescription) : (s.sendWarning d).wantsWrite = true := by
  have hnoted : (s.note (.sendingWarning d)).Room (n + 1) := h.of_eq rfl (sent_note _ _) rfl
  obtain ⟨front, hfront, hsaid⟩ :=
    said_sendAlert hnoted.able (not_exhausted hnoted.able (.inl hnoted.inBounds)) ⟨.warning, d⟩
  obtain ⟨rs, hsent, hout⟩ := (fills_send (s.note (.sendingWarning d)) (.ofAlert ⟨.warning, d⟩)).queued
  have hsome : rs ≠ [] := by
    rintro rfl
    rw [List.append_nil] at hsent
    rw [said, hsent] at hsaid
    have hlength := hfront.length_le
    rw [said, hsaid, List.length_append, List.length_singleton] at hlength
    omega
  show (!ByteQueue.isEmpty _) = true
  rw [ByteQueue.isEmpty, Session.sendWarning, hout]
  simp [hsome]

end Session

namespace Connection

variable {c : Connection} {p : Protection} {k : UInt64} {n : Nat}

/-- An open connection after the handshake that has taken in what has arrived, has nothing for its user, and has
something to answer. -/
structure Answering (c : Connection) : Prop where
  stage : c.stage = .ok .traffic
  settled : c.Settled
  traffic : c.session.traffic = true
  status : c.session.status = .opened
  opened : c.session.closeReceived = false
  unread : c.session.incoming = {}
  waits : c.wantsWrite = true

theorem Answering.concluded (h : c.Answering) : c.isHandshaking = false :=
  isHandshaking_of_traffic h.traffic

theorem Answering.wantsRead (h : c.Answering) : c.wantsRead = true :=
  wantsRead_of_traffic h.stage h.traffic h.status h.unread

/-- The server can ask for another handshake in one record, and the connection has that to answer. -/
theorem Operating.answers (h : c.Operating p k (n + 1)) (hk : ¬ Direction.hardLimit ≤ k)
    (hnothing : c.session.incoming = {}) : ∃ (wire : Record) (c' : Connection), wire.Fits ∧
      (c.extend wire.encode).process = (.ok c'.session.ioState, c') ∧ c'.Answering := by
  obtain ⟨wire, q, hfits, -, hseals⟩ := h.seals (r := .asking) hk rfl (by decide)
  have hjoin : (c.unsealed .asking ⟨some q, k + 1, .active⟩).handshakes = {} := h.handshakes
  obtain ⟨hpass, hsettled⟩ := hseals _ _ (takeOpened_asking hjoin h.traffic)
  set s := (c.unsealed .asking ⟨some q, k + 1, .active⟩).session
  have hroom : s.Room (n + 1) :=
    h.room.of_eq rfl ((Session.sent_happened _ _).trans (List.append_nil _)) rfl
  have hutters := Session.utters_sendAlert (s.note (.sendingWarning .noRenegotiation))
    ⟨.warning, .noRenegotiation⟩
  exact ⟨wire, _, hfits, hpass.process.trans hsettled.process, rfl, hsettled,
    hutters.traffic.trans h.traffic, (hroom.warned _).opened, hutters.closeReceived.trans h.opened,
    hutters.still.incoming.trans hnothing, hroom.warns _⟩

end Connection

namespace Transfer

variable {s s₁ : Stream} {n k : Nat}

/-- Before a read nothing is done where the handshake is over and nothing waits. -/
theorem completePrior_idle (hover : s.connection.isHandshaking = false)
    (hidle : s.connection.wantsWrite = false) : completePrior.run s = (.ok (), s) := by
  rw [completePrior_eq, conclude, settle, bind_assoc, run_bind_ask, hover]
  show ((pure () : Transfer Unit) >>= fun _ => _).run s = _
  rw [pure_bind, run_bind_ask, hidle]
  rfl

/-- After the handshake, where nothing waits to be written, completing takes in what one read gives. -/
theorem completeIo_reads {io : IoState} {c : Connection} {stage : Stage}
    (hok : s.connection.stage = .ok stage) (hover : s.connection.isHandshaking = false)
    (hidle : s.connection.wantsWrite = false) (hwants : s.connection.wantsRead = true)
    (hread : readTls.run s = (.ok k, s₁)) (hprocess : s₁.connection.process = (.ok io, c)) :
    completeIo.run s = (.ok (k, 0), { s₁ with connection := c }) := by
  have htaken : (takeIn false (true && k == 0) (0 + k, 0 + 0)).run s₁
      = (.ok (.inl (k, 0)), { s₁ with connection := c }) := by
    rw [takeIn, run_bind_process, hprocess]
    dsimp only
    rw [run_bind_ask, if_pos (by simp), Nat.zero_add]
    rfl
  have hturn : (turn false (0, 0)).run s = (.ok (.inl (k, 0)), { s₁ with connection := c }) := by
    rw [turn, run_bind_of_ok (writeAll_idle hidle), if_neg (by simp), run_bind_ask, hwants, if_pos rfl,
      run_bind_of_ok hread]
    exact htaken
  unfold completeIo
  rw [run_bind_get, hok, hover]
  dsimp only
  rw [turns_succ _ _ (0, 0), run_bind_of_ok hturn]
  rfl

end Transfer

namespace Stream

open Transfer

variable {s s₁ : Stream} {n : Nat}

/-- A pass that has to answer writes the answer out, reads nothing, and so gives nothing. -/
theorem reading_answering (h : s.connection.Reached) (hanswers : s.connection.Answering)
    (hreliable : s.transport.Reliable) :
    ∃ w s₁, (reading n ()).run s = (.ok (.inl []), s₁) ∧ s.Flushes w s₁ := by
  obtain ⟨w, s₁, hwrite, hflushes⟩ := writeAll_flushes h.regular.outgoing hreliable
  have hup : ∀ why, s.connection.stage ≠ .error (.transport why) := by
    intro why hwhy
    cases hanswers.stage.symm.trans hwhy
  have hcomplete : completeIo.run s = (.ok (0, w), s₁) := by
    rw [completeIo_writes h hanswers.concluded hanswers.waits hup, run_bind_of_ok hwrite]
    rfl
  have hsettled : s₁.connection.Settled := by
    rw [hflushes.connection]
    exact ⟨hanswers.settled.1, hanswers.settled.2⟩
  have hnone : s₁.connection.session.ioState.toRead = 0 := by
    rw [hflushes.connection]
    show s.connection.session.incoming.length = 0
    rw [hanswers.unread]
    rfl
  refine ⟨w, s₁, ?_, hflushes⟩
  rw [reading, run_bind_ask, hanswers.wantsRead, if_neg (by decide), run_bind_of_ok hcomplete,
    if_neg (not_not.mpr rfl), run_bind_process, hsettled.process]
  dsimp only
  rw [if_pos hnone]
  rfl

/-- So a read whose first pass comes to such a connection gives nothing. -/
theorem read_answering {moved : Nat × Nat} (hover : s.connection.isHandshaking = false)
    (hidle : s.connection.wantsWrite = false) (hwants : s.connection.wantsRead = true)
    (hfirst : completeIo.run s = (.ok moved, s₁)) (hsome : moved.1 ≠ 0) (h : s₁.connection.Reached)
    (hanswers : s₁.connection.Answering) (hreliable : s₁.transport.Reliable) :
    ∃ w s₂, (Transfer.read n).run s = (.ok [], s₂) ∧ s₁.Flushes w s₂ := by
  have hpass : (reading n ()).run s = (.ok (.inr ()), s₁) := by
    rw [reading, run_bind_ask, hwants, if_neg (by decide), run_bind_of_ok hfirst, if_pos hsome]
    rfl
  obtain ⟨w, s₂, hlast, hflushes⟩ := reading_answering (n := n) h hanswers hreliable
  refine ⟨w, s₂, ?_, hflushes⟩
  rw [Transfer.read, run_bind_of_ok (completePrior_idle hover hidle), run_bind_get, readUpTo_succ,
    run_bind_of_ok hpass]
  show (readUpTo n _).run _ = _
  rw [readUpTo_succ, run_bind_of_ok hlast]
  rfl

/-- A server that asks for another handshake makes the next read tell the end, whatever else it has sent behind
the request, and though it has not closed its side. -/
theorem read_declined {c : Connection} {p : Protection} {k : UInt64} {m : Nat}
    (h : c.Operating p k (m + 1)) (hreached : c.Reached) (hk : ¬ Direction.hardLimit ≤ k)
    (hidle : c.wantsWrite = false) (hnothing : c.session.incoming = {}) :
    ∃ wire : Record, ∀ (rest : List Delivery) (n : Nat), ∃ s',
      (Transfer.read n).run ⟨c, { deliveries := .data wire.encode :: rest }⟩ = (.ok [], s') ∧
      s'.connection.session.closeReceived = false ∧ s'.transport.deliveries = .data [] :: rest := by
  obtain ⟨wire, c₁, hfits, hprocess, hanswers⟩ := h.answers hk hnothing
  refine ⟨wire, fun rest n => ?_⟩
  set t : Transport := { deliveries := .data [] :: rest } with ht
  have hover := Connection.isHandshaking_of_traffic h.traffic
  have hwants := Connection.wantsRead_of_traffic h.stage h.traffic h.room.opened hnothing
  have hread : readTls.run ⟨c, { deliveries := .data wire.encode :: rest }⟩
      = (.ok wire.encode.length, ⟨c.extend wire.encode, t⟩) :=
    run_readTls (Connection.readTls_delivered h.opened h.deframer hfits rfl)
  have hfirst : completeIo.run ⟨c, { deliveries := .data wire.encode :: rest }⟩
      = (.ok (wire.encode.length, 0), ⟨c₁, t⟩) :=
    completeIo_reads h.stage hover hidle hwants hread hprocess
  have hsome : wire.encode.length ≠ 0 := by simpa using wire.encode_ne_nil
  obtain ⟨w, s₂, hrun, hflushes⟩ := read_answering (n := n) hover hidle hwants hfirst hsome
    (reached_completeIo (s := ⟨c, _⟩) hreached hfirst) hanswers (Transport.reliable_of_nil rfl)
  refine ⟨s₂, hrun, ?_, hflushes.arriving.1⟩
  rw [hflushes.connection]
  exact hanswers.opened

end Stream

namespace Connection

variable {c : Connection}

/-- Nothing more is wanted from a peer that has closed its side. -/
theorem Reached.opened_of_wantsRead (h : c.Reached) (hwants : c.wantsRead = true) :
    c.session.closeReceived = false := by
  have halive : c.session.status ≠ .closed := by
    simp only [wantsRead, Bool.and_eq_true, bne_iff_ne] at hwants
    exact hwants.1.1.2
  by_contra hclose
  exact halive (h.closed_iff.mpr (.inl (by simpa using hclose)))

end Connection

/-! ## Why a read gives nothing -/

namespace Stream

open Transfer

variable {s s₀ s₁ s' : Stream} {n w : Nat}

/-- A read that was wanted and gives nothing finds the end of the transport. -/
theorem Fetches.ended (h : s.Fetches 0 s') (hs : s.connection.Reached)
    (hwants : s.connection.wantsRead = true) : 0 < s.connection.deframer.room ∧
      s.transport.read s.connection.deframer.room = (.ok [], s'.transport) ∧ s'.transport.Ended := by
  cases h with
  | unwanted hunwanted => exact absurd (hwants.symm.trans hunwanted) (by decide)
  | wanted _ hread =>
    have hreads := s.readTls_reads
    rw [hread] at hreads
    generalize hzero : 0 = k at hreads
    cases hreads with
    | closed hclose => exact absurd (hclose.symm.trans (hs.opened_of_wantsRead hwants)) (by decide)
    | @arrives bs t _ hroom hgiven =>
      obtain rfl : bs = [] := List.length_eq_zero_iff.mp hzero.symm
      have hpos : 0 < s.connection.deframer.room := by
        have hfits := hs.fits
        simp only [Deframer.isFull, beq_eq_false_iff_ne] at hroom
        rw [Deframer.room]
        omega
      obtain ⟨-, hended, -⟩ := Transport.read_ok hgiven
      exact ⟨hpos, hgiven, hended rfl hpos⟩

/-- A read ends its handshake, writes what waits, and comes to another pass of its loop. -/
def ReadsOn (n : Nat) (s s₀ s₁ : Stream) : Prop :=
  completePrior.run s = (.ok (), s₀) ∧ ReflTransGen (Goes (reading n)) ((), s₀) ((), s₁)

/-- Why a read gives nothing. -/
inductive TellsEnd (n : Nat) (s s' : Stream) : Prop
  /-- The peer has closed its side. -/
  | closed (hclosed : s'.connection.session.closeReceived = true)
  /-- A read of the transport gave nothing, and nothing more comes. -/
  | ended {s₀ s₁ : Stream} (hreads : s.ReadsOn n s₀ s₁) (hroom : 0 < s₁.connection.deframer.room)
    (hread : s₁.transport.read s₁.connection.deframer.room = (.ok [], s'.transport))
    (hended : s'.transport.Ended)
  /-- A request for another handshake was declined, and the last pass wrote that out. -/
  | declined {s₀ s₁ : Stream} {w : Nat} (hreads : s.ReadsOn n s₀ s₁)
    (hdeclined : s₀.connection.session.Declines s₁.connection.session) (hw : 0 < w)
    (hflushes : s₁.Flushes w s')

/-- What holds before each pass of reading: what waits to be written is the answer to what was read. -/
structure Awaits (s₀ s : Stream) : Prop where
  reached : s.connection.Reached
  concluded : s.connection.isHandshaking = false
  history : s₀.connection.session.history <:+ s.connection.session.history
  waiting : s.connection.wantsWrite = true → s.connection.Settled ∧
    (s.connection.session.closeReceived = true ∨ s₀.connection.session.Declines s.connection.session)

theorem Awaits.goes {p q : Unit × Stream} (h : s₀.Awaits p.2) (hpass : Goes (reading n) p q) :
    s₀.Awaits q.2 := by
  obtain ⟨hreached, -, hover⟩ := goes_reading h.reached hpass
  obtain ⟨hwants, moved, hcomplete, hsome⟩ := goes_reading_inv hpass
  by_cases hwaits : p.2.connection.wantsWrite = true
  · exact absurd (completeIo_waiting h.reached h.concluded hwaits hcomplete).1 hsome
  have hidle := Bool.eq_false_iff.mpr hwaits
  obtain ⟨s₁, io, c, hfetch, hprocess, hq⟩ := completeIo_idle h.reached h.concluded hidle hcomplete
  have hc : q.2.connection = c := by rw [hq]
  obtain ⟨-, -, d, hd⟩ := hfetch.moves
  obtain ⟨stage, hok⟩ := Connection.stage_of_process hprocess
  have hstage : s₁.connection.stage = .ok .traffic := by
    have hover₁ : s₁.connection.isHandshaking = false := by
      rw [hd]
      exact h.concluded
    exact (hfetch.reached h.reached).traffic hover₁ hok
  have hsession : s₁.connection.session = p.2.connection.session := by rw [hd]
  have hfills := Connection.process_fills s₁.connection
  rw [hprocess, hsession] at hfills
  refine ⟨hreached, hover, ?_, fun hwrites => ?_⟩
  · rw [hc]
    exact h.history.trans hfills.history
  · rw [hc] at hwrites ⊢
    refine ⟨Connection.process_settled hprocess, ?_⟩
    rcases Connection.process_hushed hstage hprocess with hclose | hhushed
    · exact .inl hclose
    · rw [hsession] at hhushed
      rcases hhushed.sent with hsent | hdeclines
      · have hsame := hhushed.fills.outgoing_eq hsent
        rw [Connection.wantsWrite, Session.wantsWrite, hsame] at hwrites
        exact absurd (hwrites.symm.trans hidle) (by decide)
      · exact .inr (hdeclines.before h.history)

/-- Whatever was called before, a read gives nothing only where the peer has closed its side, where a read of
the transport gave nothing, or where a request for another handshake was declined and this was written out. -/
theorem read_ended (h : s.connection.Reached) (hn : 0 < n)
    (hrun : (Transfer.read n).run s = (.ok [], s')) : s.TellsEnd n s' := by
  rcases hprior : completePrior.run s with ⟨e | u, s₀⟩
  · rw [Transfer.read, run_bind_of_error hprior] at hrun
    cases hrun
  obtain ⟨hs₀, hover, hidle⟩ := completePrior_ok h hprior
  obtain ⟨⟨⟨⟩, s₁⟩, hgoes, hends⟩ := read_loops (n := n) h hprior
  have hreads : s.ReadsOn n s₀ s₁ := ⟨hprior, hgoes⟩
  have hawaits : s₀.Awaits s₁ := by
    refine goes_keeps (I := fun p => s₀.Awaits p.2) (fun p q hp => hp.goes) hgoes ?_
    exact ⟨hs₀, hover, List.suffix_rfl, fun hwrites => absurd (hwrites.symm.trans hidle) (by decide)⟩
  rw [hrun] at hends
  cases hends with
  | returns hlast =>
    rcases reading_nil hn hlast with hclose | ⟨hwants, moved, s₂, hcomplete, hnone, hs'⟩
    · exact .closed hclose
    have hopen := hawaits.reached.opened_of_wantsRead hwants
    by_cases hwaits : s₁.connection.wantsWrite = true
    · obtain ⟨-, hflushes⟩ := completeIo_waiting hawaits.reached hawaits.concluded hwaits hcomplete
      obtain ⟨hsettled, hclose | hdeclines⟩ := hawaits.waiting hwaits
      · exact absurd (hclose.symm.trans hopen) (by decide)
      have hwritten : s₂.connection.Settled := by
        rw [hflushes.connection]
        exact ⟨hsettled.1, hsettled.2⟩
      have hsame : s' = s₂ := by
        rw [hs', hwritten.process]
      rw [hsame]
      exact .declined hreads hdeclines (hflushes.pos hawaits.reached.regular.outgoing hwaits) hflushes
    · have hidle₁ := Bool.eq_false_iff.mpr hwaits
      obtain ⟨s₃, io, c, hfetch, hprocess, hs₂⟩ :=
        completeIo_idle hawaits.reached hawaits.concluded hidle₁ hcomplete
      rw [hnone] at hfetch
      obtain ⟨hroom, hread, hended⟩ := hfetch.ended hawaits.reached hwants
      have hlast : s'.transport = s₃.transport := by rw [hs', hs₂]
      rw [← hlast] at hread hended
      exact .ended hreads hroom hread hended

/-- The server's request ends the read, with more of what it sent still to come and its side not closed. -/
theorem read_ended_closed : ∃ c wire s', Connection.Reached c ∧
    (Transfer.read 1).run ⟨c, { deliveries := [.data (Record.encode wire), .data [23, 3, 1]] }⟩
      = (.ok [], s') ∧
    s'.connection.session.closeReceived = false ∧ s'.transport.deliveries = [.data [], .data [23, 3, 1]] ∧
    TellsEnd 1 ⟨c, { deliveries := [.data (Record.encode wire), .data [23, 3, 1]] }⟩ s' := by
  obtain ⟨c, secrets, t, p, hc, hlistens, hearly, hincoming, -, hroom⟩ := Connection.run_acquainted
  obtain ⟨finishing, q, hdone, hkept⟩ :=
    hlistens.completes (n := 100) (by decide) (by rw [hearly]; exact hroom)
  set c₁ := (c.run Call.acquaint).run
    [.readTls { deliveries := [.data (Record.encode finishing)] }, .process] with hc₁
  have hreached : c₁.Reached :=
    Connection.Reached.run ⟨_, _, _, c, Call.acquaint, hc, rfl⟩ _
  obtain ⟨wire, hdeclined⟩ := read_declined hdone.written hreached.written (by decide) rfl
    (hkept.trans hincoming)
  obtain ⟨s', hrun, hopen, hrest⟩ := hdeclined [.data [23, 3, 1]] 1
  exact ⟨c₁.written, wire, s', hreached.written, hrun, hopen, hrest,
    read_ended hreached.written Nat.one_pos hrun⟩

end Stream

end TlsClient
