import TlsClient.Proofs.Cipher.Reopening
import TlsClient.Proofs.Connection.Passing
import TlsClient.Proofs.Session.Flowing
import TlsClient.Proofs.Wire.Messages

/-!
# The end of a handshake

The server can seal any record that is not too long, and a connection that has taken in all that came before
opens it (`Listens.hears`).  So it can end the handshake with its Finished (`Listens.completes`): what the
user wrote before is sent then, and what is written from there on (`Operating.write`) as long as there are
numbers for the records.  A handshake with one server can be run up to its key change (`run_acquainted`) and
delivered as a whole (`start_delivers`).
-/

namespace TlsClient

/-- The proof that the server has seen the same messages. -/
def Secrets.proof (s : Secrets) (transcript : Bytes) : HandshakeMessage :=
  .finished (s.serverVerify (Transcript.digest transcript))

theorem Secrets.length_proof (s : Secrets) (transcript : Bytes) :
    (Wire.encode (s.proof transcript)).length = 16 := by
  rw [HandshakeMessage.encode_eq, List.length_cons, Encoder.vector, List.length_append, Bytes.length_ofNat]
  show 3 + (s.serverVerify _).length + 1 = 16
  rw [s.length_serverVerify]
  rfl

theorem Secrets.decode_proof (s : Secrets) (transcript : Bytes) :
    (Wire.decode : Decoder HandshakeMessage).run (Wire.encode (s.proof transcript))
      = .ok (s.proof transcript, []) := by
  set m := s.proof transcript with hm
  have hbody : (HandshakeMessage.decodeBody m.typ).run m.body = .ok (m, []) :=
    HandshakeMessage.decodeBody_ok.mpr ⟨rfl, trivial, m.isBody_body⟩
  refine HandshakeMessage.decode_ok.mpr ⟨m.typ.code, m.body, ?_, ?_, hbody⟩
  · rw [List.append_nil, HandshakeMessage.encode_eq]
  · show (s.serverVerify _).length < _
    rw [s.length_serverVerify]
    decide

/-- The keys of the other direction start with a vector of the length of a block. -/
theorem Secrets.iv_receiving {s : Secrets} {p : Protection} (h : s.receiving = .ok p) :
    p.iv.length = p.key.blockLength := by
  obtain ⟨hblock, hiv⟩ := Protection.of_ofKeys h
  rw [hblock, hiv]
  simp only [keyBlock, List.length_take, List.length_drop, length_prf, Suite.keyBlockLength]
  omega

/-- The right proof ends the handshake. -/
theorem Stage.takeFinished_proof (secrets : Secrets) (t : Bytes) (v : ProtocolVersion) (bs : Bytes)
    (s : Session) : (takeFinished secrets t ⟨v, .handshake (secrets.proof t) bs⟩).run s
      = (.ok .traffic, s.startTraffic.note (.progress .done)) := by
  unfold takeFinished Secrets.proof
  dsimp only
  rw [if_neg (not_not.mpr rfl)]
  rfl

namespace Connection

variable {c c' : Connection} {stage stage' : Stage} {secrets : Secrets} {t bs : Bytes} {r wire : Record}
  {p : Protection} {k : UInt64} {n : Nat}

/-! ## What the server can send -/

/-- A connection that has just opened a record with keys. -/
def unsealed (c : Connection) (r : Record) (d : Direction) : Connection := { c with
  session := ({ c.session with layer := { c.session.layer with receiving := d } } : Session).happened
    (.opened true r) }

/-- Opening a record and handling its message sends nothing. -/
theorem sent_unsealed (c : Connection) (r : Record) (d : Direction) (m : Message) :
    ((c.unsealed r d).session.happened (.handled m)).sent = c.session.sent := by
  rw [unsealed, Session.sent_happened, Session.sent_happened]
  exact (List.append_nil _).trans (List.append_nil _)

/-- A record that arrives at an empty deframer is the next. -/
theorem readTls_wire (hok : c.stage = .ok stage) (hopen : c.session.closeReceived = false)
    (hempty : c.deframer = {}) (hwire : wire.Fits) :
    c.call (.readTls { deliveries := [.data wire.encode] }) = c.extend wire.encode := by
  have hsettled : c.Settled := ⟨⟨stage, hok⟩, .inr (by rw [hempty]; rfl)⟩
  obtain ⟨-, t, ht⟩ := readTls_settled hsettled (by simp [hopen]) wire.encode
  obtain ⟨l₁, l₂, -, henc⟩ := Record.encode_cons hwire.1 (Record.lt_of_le_maxPayload hwire.2)
  have hfits : wire.encode.length ≤ c.deframer.room := by
    rw [hempty, henc]
    exact Nat.add_le_add_right hwire.2 Record.headerLength
  show (c.readTls _).2.1 = _
  rw [ht, List.take_of_length_le hfits]

/-- A connection between two messages of the server that has taken in all that came, and opens what comes
next with these keys and this number. -/
structure Listens (c : Connection) (stage : Stage) (p : Protection) (k : UInt64) : Prop where
  stage : c.stage = .ok stage
  opened : c.session.closeReceived = false
  deframer : c.deframer = {}
  handshakes : c.handshakes = {}
  receiving : c.session.layer.receiving = ⟨some p, k, .active⟩
  iv : p.iv.length = p.key.blockLength

/-- Whatever the server has to say it can seal in a record, and this is opened and taken in. -/
theorem Listens.seals (h : c.Listens stage p k) (hk : ¬ Direction.hardLimit ≤ k)
    (hversion : r.version = .tls1) (hr : r.payload.length ≤ Record.maxFragment) :
    ∃ (wire : Record) (q : Protection), wire.Fits ∧ q.iv.length = q.key.blockLength ∧ ∀ stage' c',
      (c.unsealed r ⟨some q, k + 1, .active⟩).takeOpened stage r = (.ok stage', c') →
      (c.extend wire.encode).Passes { c' with stage := .ok stage' } ∧
        ({ c' with stage := .ok stage' } : Connection).Settled := by
  obtain ⟨wire, q, -, hreopened⟩ := Protection.unprotect_protect k h.iv hr
  have hfits : wire.Fits := ⟨Protection.unprotect_version hreopened.opens ▸ hversion,
    Nat.le_trans hreopened.bounded (by decide)⟩
  refine ⟨wire, q, hfits, hreopened.iv, fun stage' c' htake => ?_⟩
  have hopens := Direction.unprotect_active hk p wire
  rw [hreopened.opens, ← h.receiving] at hopens
  have htaken : c.takeRecord stage wire = (.ok stage', c') := by
    rw [takeRecord_opened hopens, h.receiving]
    exact htake
  have hempty : c'.deframer = {} := by
    have hd := takeRecord_deframer c stage wire
    rw [htaken] at hd
    exact hd.trans h.deframer
  have hpop : (c.extend wire.encode).deframer.pop = (.ok (some wire), c.deframer) := by
    rw [extend, h.deframer]
    exact Deframer.pop_encode rfl hfits (List.append_nil _).symm
  exact ⟨.record h.stage h.opened hpop htaken, ⟨stage', rfl⟩, .inr (by rw [hempty]; rfl)⟩

theorem Listens.hears (h : c.Listens stage p k) (hk : ¬ Direction.hardLimit ≤ k)
    (hversion : r.version = .tls1) (hr : r.payload.length ≤ Record.maxFragment) :
    ∃ (wire : Record) (q : Protection), q.iv.length = q.key.blockLength ∧ ∀ stage' c',
      (c.unsealed r ⟨some q, k + 1, .active⟩).takeOpened stage r = (.ok stage', c') →
      c.run [.readTls { deliveries := [.data wire.encode] }, .process]
        = { c' with stage := .ok stage' } := by
  obtain ⟨wire, q, hfits, hiv, hseals⟩ := h.seals hk hversion hr
  refine ⟨wire, q, hiv, fun stage' c' htake => ?_⟩
  obtain ⟨hpass, hsettled⟩ := hseals stage' c' htake
  rw [run_cons, readTls_wire h.stage h.opened h.deframer hfits]
  show (Connection.process _).2 = _
  rw [hpass.process, hsettled.process]

/-! ## After the handshake -/

/-- A connection whose handshake is over, and which has some numbers left for what it sends. -/
structure Operating (c : Connection) (p : Protection) (k : UInt64) (n : Nat) : Prop
    extends Listens c .traffic p k where
  traffic : c.session.traffic = true
  room : c.session.Room n

/-- The server's Finished in a record of its own. -/
def finishing (secrets : Secrets) (t : Bytes) : Record :=
  ⟨.handshake, .tls1, Wire.encode (secrets.proof t)⟩

/-- Between two messages the right proof is taken in at once. -/
theorem takeOpened_finishing (hjoin : c.handshakes = {}) :
    ∃ m, c.takeOpened (.finished secrets t) (finishing secrets t) = (.ok .traffic,
      { c with session := (c.session.happened (.handled m)).startTraffic.note (.progress .done) }) := by
  set bs := Wire.encode (secrets.proof t) with hbs
  have hlength : bs.length = 16 := secrets.length_proof t
  have hne : bs ≠ [] := List.ne_nil_of_length_pos (by rw [hlength]; decide)
  have hpush : c.handshakes.push (finishing secrets t) = (.ok 1,
      { ready := [⟨.tls1, .handshake (secrets.proof t) bs⟩], buffer := [] }) := by
    rw [hjoin]
    exact HandshakeJoiner.push_whole hne (secrets.decode_proof t)
      (by show bs.length ≤ _; rw [hlength]; decide)
  have hhandshake : (finishing secrets t).typ = .handshake := rfl
  refine ⟨⟨.tls1, .handshake (secrets.proof t) bs⟩, ?_⟩
  rw [takeOpened, if_neg (by simp [hhandshake]), if_pos hhandshake, takeHandshakes, hpush]
  dsimp only
  rw [deliverAll, deliver, if_neg (by rintro ⟨-, ⟨⟩⟩), Stage.handle, Stage.takeFinished_proof]
  dsimp only
  rw [deliverAll, ← hjoin]

/-- With its Finished the server ends the handshake, if there is room for what the user wrote before. -/
theorem Listens.completes (h : c.Listens (.finished secrets t) p k) (hk : ¬ Direction.hardLimit ≤ k)
    (hroom : c.session.Room ((Dialogue.waiting c.session.early).length + n)) :
    ∃ (wire : Record) (q : Protection),
      (c.run [.readTls { deliveries := [.data wire.encode] }, .process]).Operating q (k + 1) n ∧
      (c.run [.readTls { deliveries := [.data wire.encode] }, .process]).session.incoming
        = c.session.incoming := by
  have hlength : (finishing secrets t).payload.length = 16 := secrets.length_proof t
  obtain ⟨wire, q, hiv, hrun⟩ := h.hears (r := finishing secrets t) hk rfl (by rw [hlength]; decide)
  have hjoin : (c.unsealed (finishing secrets t) ⟨some q, k + 1, .active⟩).handshakes = {} := h.handshakes
  obtain ⟨m, htake⟩ := @takeOpened_finishing _ secrets t hjoin
  refine ⟨wire, q, ?_⟩
  rw [hrun _ _ htake]
  set s := (c.unsealed (finishing secrets t) ⟨some q, k + 1, .active⟩).session.happened (.handled m)
  have hstarts := s.utters_startTraffic
  have hreceiving := (Session.talks_startTraffic s).receiving
  have hbefore : s.Room ((Dialogue.waiting s.early).length + n) :=
    hroom.of_eq rfl (c.sent_unsealed _ _ m) rfl
  have hafter : (s.startTraffic.note (.progress .done)).Room n :=
    hbefore.startTraffic.of_eq rfl (Session.sent_note _ _) rfl
  exact ⟨⟨⟨rfl, hstarts.closeReceived.trans h.opened, h.deframer, hjoin, hreceiving, hiv⟩, hstarts.traffic,
    hafter⟩, hstarts.still.incoming⟩

/-- What the user writes is sent, as long as there is room for it. -/
theorem Operating.write (h : c.Operating p k ((Session.dataRecords bs).length + n)) :
    (c.call (.write bs)).Operating p k n := by
  have hwrite : c.session.write bs = (.ok bs.length, c.session.sendPlaintext bs) :=
    if_neg (not_not.mpr h.room.opened)
  have hcall : c.call (.write bs) = { c with session := c.session.sendPlaintext bs } := by
    show (c.write bs).2 = _
    rw [Connection.write, hwrite]
  have hutters := Session.utters_sendPlaintext h.traffic bs
  have hreceiving := (Session.talks_sendPlaintext c.session bs).receiving
  rw [hcall]
  exact ⟨⟨h.stage, hutters.closeReceived.trans h.opened, h.deframer, h.handshakes,
    hreceiving.trans h.receiving, h.iv⟩, hutters.traffic.trans h.traffic, h.room.sendPlaintext h.traffic⟩

end Connection

/-! ## A handshake -/

/-- A configuration that offers one suite and knows one server. -/
def Config.acquainted : Config where
  suites := [⟨⟨0x002f⟩, .rsa, .aes128⟩]
  verifier := .pinned [(⟨[1, 2, 3]⟩, ⟨.rsa ⟨2 ^ 512 - 1, 3⟩, none⟩)]
  srp := none
  auth := none
  logsSecrets := false

/-- What it is built by. -/
def ConfigBuilder.acquainted : ConfigBuilder where
  suites := some [⟨⟨0x002f⟩, .rsa, .aes128⟩]
  verifier := .pinned [(⟨[1, 2, 3]⟩, ⟨.rsa ⟨2 ^ 512 - 1, 3⟩, none⟩)]

/-- What that server sends up to its key change: it accepts the suite, warns, shows its certificate and is
done. -/
def Record.acquaintance : List Record :=
  [⟨.handshake, .tls1, [2, 0, 0, 38, 3, 1] ++ List.replicate 32 7 ++ [0, 0, 47, 0]⟩,
    ⟨.alert, .tls1, [1, 90]⟩, ⟨.handshake, .tls1, [11, 0, 0, 9, 0, 0, 6, 0, 0, 3, 1, 2, 3]⟩,
    ⟨.handshake, .tls1, [14, 0, 0, 0]⟩, .keyChange]

/-- The calls that take it in. -/
def Call.acquaint : List Call :=
  [.readTls { deliveries := [.data (Record.acquaintance.flatMap Record.encode)] }, .process]

/-- The server's Finished can be sealed for whoever expects it. -/
theorem Config.delivers_finished (config : Config) {secrets : Secrets} {p : Protection} (t : Bytes)
    (src : RandomSource) (h : secrets.receiving = .ok p) : ∃ m wire,
      config.Delivers (.finished secrets t) src ⟨some p, 0, .active⟩ [m] [wire] ∧
        wire.payload.length ≤ Record.maxFragment + macLength + 16 := by
  have hlength : (Connection.finishing secrets t).payload.length = 16 := secrets.length_proof t
  obtain ⟨wire, q, -, hopened⟩ := Protection.unprotect_protect (r := Connection.finishing secrets t) 0
    (Secrets.iv_receiving h) (by rw [hlength]; decide)
  have hopen : Direction.unprotect ⟨some p, 0, .active⟩ wire
      = (.ok (Connection.finishing secrets t), ⟨some q, 1, .active⟩) := by
    rw [Direction.unprotect_active (by decide), hopened.opens]
    rfl
  have hfits : wire.Fits :=
    ⟨(Protection.unprotect_version hopened.opens).symm, Nat.le_trans hopened.bounded (by decide)⟩
  exact ⟨_, wire, .whole (secrets.decode_proof t) (by rw [secrets.length_proof]; decide) hopen hfits
    (.finished rfl rfl) .complete, hopened.bounded⟩

/-- What the server says without its warning, and its Finished, can be delivered if there are random bytes for
the reply. -/
theorem Config.delivers_acquainted (random : HelloRandom) (t : Transcript) (offered : List ExtensionType)
    {src src' : RandomSource} {agreement : Agreement}
    (hagree : (KeyExchange.rsa.agree (some (.rsa ⟨2 ^ 512 - 1, 3⟩))).run src = (.ok agreement, src')) :
    ∃ ms wire, acquainted.Delivers (.serverHello random t offered) src {} ms
        (Record.acquaintance.filter (·.typ != .alert) ++ [wire]) ∧
      wire.payload.length ≤ Record.maxFragment + macLength + 16 := by
  set key : PublicKey := .rsa ⟨2 ^ 512 - 1, 3⟩
  set hello : ServerHello := ⟨.tls1, .ofBytes (List.replicate 32 7), .empty, ⟨0x002f⟩, .null, []⟩
  set chooses : Message :=
    ⟨.tls1, .handshake (.serverHello hello) ([2, 0, 0, 38, 3, 1] ++ List.replicate 32 7 ++ [0, 0, 47, 0])⟩
  set shows : Message :=
    ⟨.tls1, .handshake (.certificate [⟨[1, 2, 3]⟩]) [11, 0, 0, 9, 0, 0, 6, 0, 0, 3, 1, 2, 3]⟩
  set ends : Message := ⟨.tls1, .handshake .serverHelloDone [14, 0, 0, 0]⟩
  set suite : Suite := ⟨⟨0x002f⟩, .rsa, .aes128⟩
  set flight : Flight := ⟨⟨random, hello.random⟩, suite, t.add chooses, .rsa⟩
  have hchooses : Stage.Takes acquainted src chooses (.serverHello random t offered) (.choose suite)
      (.certificate flight) src := .hello rfl (by rfl) rfl
  have hshows : Stage.Takes acquainted src shows (.certificate flight) .nothing
      (.requestOrDone (flight.add shows) (some key)) src := .certificate rfl (by rfl)
  obtain ⟨r, hreply⟩ : ∃ r, acquainted.Replies (flight.add shows) (some key) none ends src r src' :=
    exists_replies hagree rfl
  obtain ⟨m, wire, hfinished, hbounded⟩ := acquainted.delivers_finished
    (r.transcript.server ++ Transcript.contribution (Message.ofHandshake r.finished)) src' hreply.receiving
  have hopens : (Direction.prepare r.receiving).Opens [.keyChange] [.keyChange] (.prepare r.receiving) :=
    .cons rfl .nil
  have hkeyed := Config.Delivers.message .keyChange hopens (List.forall_mem_singleton.mpr ⟨rfl, by decide⟩)
    (.keyChange rfl) hfinished
  have hended := Config.Delivers.whole (d := {}) (by decide) (by decide) rfl ⟨rfl, by decide⟩
    (.reply (.unasked _ _) rfl hreply) hkeyed
  have hshown := Config.Delivers.whole (d := {}) (by decide) (by decide) rfl ⟨rfl, by decide⟩ hshows hended
  exact ⟨_, wire, .whole (by decide) (by decide) rfl ⟨rfl, by decide⟩ hchooses hshown, hbounded⟩

namespace Connection

variable {c : Connection}

/-- Only where the server's Finished is expected the signal of its key change was the last to come. -/
theorem progress_keyed (h : c.progress = .serverChangeCipherSpecReceived) :
    ∃ secrets t, c.stage = .ok (.finished secrets t) := by
  unfold progress at h
  split at h
  · next stage hstage =>
    rw [hstage]
    cases stage with
    | finished secrets t => exact ⟨secrets, t, rfl⟩
    | serverParams flight key => cases key <;> cases h
    | requestOrDone flight key =>
      unfold Stage.progress at h
      dsimp only at h
      split at h <;> cases h
    | _ => cases h
  · cases h

theorem start_acquainted : ∃ c, Connection.start .acquainted 0 (.seeded [] 0 none) = .ok c :=
  start_ok _ _ rfl

/-- After its key change the server's Finished is expected. -/
theorem run_acquainted : ∃ c secrets t p, Connection.start .acquainted 0 (.seeded [] 0 none) = .ok c ∧
    (c.run Call.acquaint).Listens (.finished secrets t) p 0 ∧ (c.run Call.acquaint).session.early = {} ∧
    (c.run Call.acquaint).session.incoming = {} ∧ (c.run Call.acquaint).session.traffic = false ∧
    (c.run Call.acquaint).session.Room 100 := by
  obtain ⟨c, hc⟩ := start_acquainted
  have hrun : let k := c.run Call.acquaint
      k.progress = .serverChangeCipherSpecReceived ∧ k.session.closeReceived = false ∧
      k.deframer = {} ∧ k.handshakes = {} ∧
      k.session.layer.receiving.phase = .active ∧ k.session.layer.receiving.seq = 0 ∧
      k.session.layer.receiving.protection.any (fun p => p.iv.length == p.key.blockLength) = true ∧
      k.session.early = {} ∧ k.session.incoming = {} ∧ k.session.traffic = false ∧
      k.session.status = .opened ∧ k.session.sent.length = 4 := by
    apply of_start hc
    decide +kernel
  obtain ⟨hprogress, hopen, hdeframer, hjoin, hphase, hseq, hiv, hearly, hincoming, htraffic, hstatus,
    hsent⟩ := hrun
  obtain ⟨p, hp, hiv⟩ := Option.any_eq_true _ _ |>.mp hiv
  obtain ⟨secrets, t, hstage⟩ := progress_keyed hprogress
  have hable := (run_orderly hc Call.acquaint).1.able
  refine ⟨c, secrets, t, p, hc, ⟨hstage, hopen, hdeframer, hjoin, ?_, by simpa using hiv⟩, hearly, hincoming,
    htraffic, hable, hstatus, ?_⟩
  · rw [← hp, ← hphase, ← hseq]
  · rw [hsent]
    decide

/-- What leads to the end of that handshake can be delivered at once. -/
theorem start_delivers : ∃ c o hello ms wires, Connection.start .acquainted 0 (.seeded [] 0 none) = .ok c ∧
    c.Starts o hello ∧ o.config = .acquainted ∧ Config.acquainted.Delivers o.stage o.random {} ms wires ∧
    (wires.flatMap Record.encode).length ≤ Record.maxLength := by
  obtain ⟨c, hc⟩ := start_acquainted
  obtain ⟨o, hello, h, hconfig⟩ := start_starts hc
  have hok : ((KeyExchange.rsa.agree (some (.rsa ⟨2 ^ 512 - 1, 3⟩))).run c.session.random).1.isOk = true := by
    apply of_start hc
    decide +kernel
  rw [h.random] at hok
  rcases hagree : (KeyExchange.rsa.agree (some (.rsa ⟨2 ^ 512 - 1, 3⟩))).run o.random
    with ⟨e | agreement, src⟩
  · rw [hagree] at hok
    cases hok
  obtain ⟨ms, wire, hdelivers, hbounded⟩ := Config.delivers_acquainted hello.random
    (({} : Transcript).add (.ofHandshake (.clientHello hello))) (hello.extensions.map ClientExtension.typ) hagree
  rw [← h.waitsFor] at hdelivers
  refine ⟨c, o, hello, ms, _, hc, h, hconfig, hdelivers, ?_⟩
  have hfront : ((Record.acquaintance.filter (·.typ != .alert)).flatMap Record.encode).length = 80 := by decide
  rw [List.flatMap_append, List.length_append, hfront, List.flatMap_singleton, Record.encode_eq_header,
    List.length_append, Record.length_header]
  have hroom : 80 + (Record.headerLength + (Record.maxFragment + macLength + 16)) ≤ Record.maxLength := by decide
  omega

end Connection

end TlsClient
