import TlsClient.Proofs.Connection.Soundness
import TlsClient.Proofs.Record.Deframing
import TlsClient.Proofs.Stage.Openness

/-!
# Delivering a handshake

Messages that pass the checks of their stages lead to the end of a handshake, each in records of its own
(`Config.Delivers`).  Record by record this is `Config.LeadsOn`: a record that leads on either waits for
more of its message or takes a message to its stage, and a connection that opens it does just that
(`takeRecord_effect`).
-/

namespace TlsClient

open HandshakeJoiner (push)

/-! ## What is delivered -/

/-- The records that one message comes in: a handshake message in pieces that are not empty, the signal
of the key change by itself. -/
inductive Message.Carried : Message → List Record → Prop
  | handshake {parsed rs} (hrs : ∀ r ∈ rs, r.typ = .handshake ∧ r.version = .tls1 ∧ r.payload ≠ [])
    (hread : (Wire.decode : Decoder HandshakeMessage).run (rs.flatMap Record.payload)
      = .ok (parsed, []))
    (hlength : (rs.flatMap Record.payload).length ≤ 4 + HandshakeJoiner.maxBody) :
    Carried ⟨.tls1, .handshake parsed (rs.flatMap Record.payload)⟩ rs
  | keyChange : Carried .changeCipherSpec [Message.changeCipherSpec.toRecord]

/-- Records that a direction opens one after another. -/
inductive Direction.Opens : Direction → List Record → List Record → Direction → Prop
  | nil {d} : Opens d [] [] d
  | cons {d d' d'' wire r wires rs} (h : d.unprotect wire = (.ok r, d'))
    (hrest : Opens d' wires rs d'') : Opens d (wire :: wires) (r :: rs) d''

/-- What an act does to the receiving direction. -/
def Stage.Act.receiving : Act → Direction → Direction
  | reply r, _ => .prepare r.receiving
  | startReceiving, d => d.start
  | _, d => d

/-- Messages that lead from a stage to the end of the handshake, and the records that they come in. -/
inductive Config.Delivers (c : Config) :
    Stage → RandomSource → Direction → List Message → List Record → Prop
  | complete {src d} : Delivers c .traffic src d [] []
  | message {stage src d m rs wires d' act stage' src' ms rest} (hcarried : m.Carried rs)
    (hopens : d.Opens wires rs d') (hfits : ∀ wire ∈ wires, wire.Fits)
    (ht : stage.Takes c src m act stage' src')
    (h : Delivers c stage' src' (act.receiving d') ms rest) :
    Delivers c stage src d (m :: ms) (wires ++ rest)

/-- A handshake message that comes in one record. -/
theorem Config.Delivers.whole {config : Config} {stage stage' : Stage} {src src' : RandomSource} {d d' : Direction}
    {parsed : HandshakeMessage} {bs : Bytes} {act : Stage.Act} {wire : Record} {ms : List Message}
    {wires : List Record} (hread : (Wire.decode : Decoder HandshakeMessage).run bs = .ok (parsed, []))
    (hlength : bs.length ≤ 4 + HandshakeJoiner.maxBody)
    (hopen : d.unprotect wire = (.ok ⟨.handshake, .tls1, bs⟩, d')) (hfits : wire.Fits)
    (ht : stage.Takes config src ⟨.tls1, .handshake parsed bs⟩ act stage' src')
    (h : config.Delivers stage' src' (act.receiving d') ms wires) :
    config.Delivers stage src d (⟨.tls1, .handshake parsed bs⟩ :: ms) (wire :: wires) := by
  have hne : bs ≠ [] := by
    rintro rfl
    cases hread
  have hpayload : [(⟨.handshake, .tls1, bs⟩ : Record)].flatMap Record.payload = bs := List.append_nil bs
  have hcarried : Message.Carried ⟨.tls1, .handshake parsed bs⟩ [⟨.handshake, .tls1, bs⟩] := by
    rw [← hpayload] at hread hlength
    have hcarried := Message.Carried.handshake (by simpa using hne) hread hlength
    rwa [hpayload] at hcarried
  exact .message hcarried (.cons hopen .nil) (List.forall_mem_singleton.mpr hfits) ht h

/-! ## One record after another -/

/-- What decides how the next record is taken. -/
structure Core where
  stage : Stage
  random : RandomSource
  receiving : Direction
  buffer : Bytes

/-- What becomes of the core by a record that was opened. -/
inductive Config.Effect (c : Config) : Core → Record → Core → Prop
  | waits {k r buffer} (hr : r.typ = .handshake) (h : push ⟨[], k.buffer⟩ r = (.ok 0, ⟨[], buffer⟩)) :
    Effect c k r { k with buffer }
  | joins {k r m act stage src} (hr : r.typ = .handshake)
    (h : push ⟨[], k.buffer⟩ r = (.ok 1, ⟨[m], []⟩)) (ht : k.stage.Takes c k.random m act stage src) :
    Effect c k r ⟨stage, src, act.receiving k.receiving, []⟩
  | alone {k r m act stage src} (hr : r.typ = .changeCipherSpec) (hbuffer : k.buffer = [])
    (h : Message.ofRecord r = .ok m) (ht : k.stage.Takes c k.random m act stage src) :
    Effect c k r ⟨stage, src, act.receiving k.receiving, []⟩

/-- Records that lead on to the end of the handshake. -/
inductive Config.LeadsOn (c : Config) : Core → List Record → Prop
  | complete {k} (hstage : k.stage = .traffic) (hbuffer : k.buffer = []) : LeadsOn c k []
  | record {k wire r d k' rest} (hfits : wire.Fits) (hopen : k.receiving.unprotect wire = (.ok r, d))
    (heffect : c.Effect { k with receiving := d } r k') (h : LeadsOn c k' rest) :
    LeadsOn c k (wire :: rest)

variable {config : Config}

/-- The records of a handshake message are joined until the last completes it. -/
theorem Config.LeadsOn.pieces {stage stage' : Stage} {src src' : RandomSource} {d d' : Direction}
    {parsed : HandshakeMessage} {act : Stage.Act} {rs wires rest : List Record} {buffer : Bytes}
    (hrs : ∀ r ∈ rs, r.typ = .handshake ∧ r.version = .tls1 ∧ r.payload ≠ []) (hne : rs ≠ [])
    (hread : (Wire.decode : Decoder HandshakeMessage).run (buffer ++ rs.flatMap Record.payload)
      = .ok (parsed, []))
    (hlength : (buffer ++ rs.flatMap Record.payload).length ≤ 4 + HandshakeJoiner.maxBody)
    (hopens : d.Opens wires rs d') (hfits : ∀ wire ∈ wires, wire.Fits)
    (ht : stage.Takes config src
      ⟨.tls1, .handshake parsed (buffer ++ rs.flatMap Record.payload)⟩ act stage' src')
    (h : config.LeadsOn ⟨stage', src', act.receiving d', []⟩ rest) :
    config.LeadsOn ⟨stage, src, d, buffer⟩ (wires ++ rest) := by
  induction rs generalizing wires d buffer with
  | nil => exact absurd rfl hne
  | cons r rs ih =>
    obtain ⟨htyp, hversion, hpayload⟩ := hrs r List.mem_cons_self
    cases hopens with
    | @cons _ d₁ _ wire _ wires' _ hopen hopens =>
      have hfit := hfits wire List.mem_cons_self
      rw [List.flatMap_cons, ← List.append_assoc] at hread hlength ht
      rcases rs with _ | ⟨r', rs⟩
      · cases hopens
        rw [List.flatMap_nil, List.append_nil] at hread hlength ht
        have hpush := @HandshakeJoiner.push_whole ⟨[], buffer⟩ r parsed hpayload hread hlength
        rw [hversion] at hpush
        exact .record hfit hopen (.joins htyp hpush ht) h
      · -- a piece that does not end the message
        have hmore : (r' :: rs).flatMap Record.payload ≠ [] := by
          have := (hrs r' (by simp)).2.2
          simp [this]
        obtain ⟨t, body, hbytes, -, -⟩ := HandshakeMessage.decode_ok.mp hread
        rw [List.append_nil] at hbytes
        have hbody : body.length ≤ HandshakeJoiner.maxBody := by
          rw [hbytes] at hlength
          simp [Encoder.vector] at hlength
          omega
        have hfront := HandshakeJoiner.front_beginning t hbody hmore hbytes.symm
        have hpush := @HandshakeJoiner.push_incomplete ⟨[], buffer⟩ r hpayload hfront
        refine .record hfit hopen (.waits htyp hpush) ?_
        exact ih (fun x hx => hrs x (List.mem_cons_of_mem r hx)) (by simp) hread hlength hopens
          (fun x hx => hfits x (List.mem_cons_of_mem wire hx)) ht

theorem Config.Delivers.leadsOn {stage : Stage} {src : RandomSource} {d : Direction}
    {ms : List Message} {wires : List Record} (h : config.Delivers stage src d ms wires) :
    config.LeadsOn ⟨stage, src, d, []⟩ wires := by
  induction h with
  | complete => exact .complete rfl rfl
  | message hcarried hopens hfits ht _ ih =>
    cases hcarried with
    | @handshake _ rs hrs hread hlength =>
      refine .pieces hrs ?_ hread hlength hopens hfits ht ih
      rintro rfl
      cases hread
    | keyChange =>
      cases hopens with
      | cons hopen hrest =>
        cases hrest
        exact .record (hfits _ List.mem_cons_self) hopen (.alone rfl rfl rfl ht) ih

/-! ## Taking a record -/

namespace Connection

/-- The core of a connection at a stage. -/
def core (c : Connection) (stage : Stage) : Core where
  stage := stage
  random := c.session.random
  receiving := c.session.layer.receiving
  buffer := c.handshakes.buffer

theorem performed_receiving {act : Stage.Act} {s s' : Session} (h : act.Performed s s') :
    s'.layer.receiving = act.receiving s.layer.receiving := by
  cases act with
  | nothing => exact Session.Talks.receiving h
  | choose suite => exact Session.Talks.receiving (s := { s with suite := some suite }) h
  | reply r =>
    obtain ⟨wire, q, -, hlayer, -⟩ := h.sealing
    rw [hlayer]
    rfl
  | startReceiving => exact Session.Talks.receiving (s := s.startReceiving) h
  | startTraffic => exact Session.Talks.receiving (s := { s with traffic := true }) h

/-- What delivering a message relies on. -/
structure Receptive (c : Connection) (stage : Stage) : Prop where
  idle : ∀ flight key request, stage.Answers flight key request → c.session.Idle
  traffic : c.session.traffic = true → stage = .traffic

theorem Sound.receptive {o : Origin} {c : Connection} {stage : Stage}
    (h : ({ c with stage := .ok stage } : Connection).Sound o) : c.Receptive stage := by
  refine ⟨h.phase.idle rfl, fun ht => ?_⟩
  obtain ⟨r, hstage, -⟩ := h.phase.of_traffic rfl ht
  exact Except.ok.inj hstage

variable {c : Connection} {stage stage' : Stage} {m : Message} {act : Stage.Act}
  {src : RandomSource}

/-- A message that passes the checks of its stage is taken in. -/
theorem deliver_takes (h : c.Receptive stage)
    (ht : stage.Takes c.config c.session.random m act stage' src) :
    ∃ s, c.deliver stage m = (.ok stage', { c with session := s }) ∧ s.random = src ∧
      s.layer.receiving = act.receiving c.session.layer.receiving ∧
      s.closeReceived = c.session.closeReceived := by
  have hkept : ¬ (c.session.traffic = true ∧ m.handshakeType? = some .helloRequest) := by
    rintro ⟨htraffic, hrequest⟩
    obtain rfl := h.traffic htraffic
    cases ht with
    | reply hanswers => cases hanswers
    | data hm =>
      rw [Message.handshakeType?, hm] at hrequest
      cases hrequest
  rcases Stage.handle_settles c.config stage m (s := c.session.happened (.handled m)) h.idle with
    ⟨act', stage'', s, ht', hrun, hact⟩ | ⟨hno, -⟩
  · obtain ⟨rfl, rfl, hsrc⟩ := ht.unique ht'
    have hreceiving := performed_receiving (s := c.session.happened (.handled m)) hact
    refine ⟨s, ?_, hsrc, hreceiving, ?_⟩
    · rw [deliver, if_neg hkept, hrun]
    · have hopened := Stage.handle_keepsOpen c.config stage m (c.session.happened (.handled m))
      rw [hrun] at hopened
      exact hopened
  · exact absurd ht (hno act stage' src)

/-- A record that leads on is taken in as its effect says. -/
theorem takeRecord_effect {wire r : Record} {d : Direction} {k : Core} (h : c.Receptive stage)
    (hready : c.handshakes.ready = [])
    (hopen : c.session.layer.receiving.unprotect wire = (.ok r, d))
    (heffect : c.config.Effect { c.core stage with receiving := d } r k) :
    ∃ c', c.takeRecord stage wire = (.ok k.stage, c') ∧ c'.core k.stage = k ∧
      c'.handshakes.ready = [] ∧ c'.deframer = c.deframer ∧
      c'.session.closeReceived = c.session.closeReceived := by
  set s := ({ c.session with layer := { c.session.layer with receiving := d } } : Session).happened
    (.opened c.session.layer.receiving.isActive r) with hs
  have htake : c.takeRecord stage wire = ({ c with session := s } : Connection).takeOpened stage r :=
    takeRecord_opened hopen stage
  have hjoiner : c.handshakes = ⟨[], c.handshakes.buffer⟩ := by rw [← hready]
  rw [htake]
  cases heffect with
  | @waits buffer hr hpush =>
    have hpush' : c.handshakes.push r = (.ok 0, ⟨[], buffer⟩) := by rw [hjoiner]; exact hpush
    refine ⟨{ c with session := s, handshakes := ⟨[], buffer⟩ }, ?_, rfl, rfl, rfl, rfl⟩
    simp only [takeOpened, takeHandshakes, hr, hpush', deliverAll, bne_self_eq_false, Bool.and_false,
      Bool.false_eq_true, if_false, if_true]
    rfl
  | @joins m act stage' src hr hpush ht =>
    have hpush' : c.handshakes.push r = (.ok 1, ⟨[m], []⟩) := by rw [hjoiner]; exact hpush
    obtain ⟨s', hdeliver, hrandom, hreceiving, hclose⟩ :=
      @deliver_takes { c with session := s, handshakes := ⟨[], []⟩ } stage stage' m act src
        ⟨h.idle, h.traffic⟩ ht
    refine ⟨{ c with session := s', handshakes := ⟨[], []⟩ }, ?_, ?_, rfl, rfl, hclose⟩
    · simp only [takeOpened, takeHandshakes, hr, hpush', deliverAll, hdeliver, bne_self_eq_false,
        Bool.and_false, Bool.false_eq_true, if_false, if_true]
    · rw [core, hrandom, hreceiving]
      rfl
  | @alone m act stage' src hr hbuffer hm ht =>
    obtain ⟨s', hdeliver, hrandom, hreceiving, hclose⟩ :=
      @deliver_takes { c with session := s } stage stage' m act src ⟨h.idle, h.traffic⟩ ht
    have hb : c.handshakes.buffer = [] := hbuffer
    have hempty : c.handshakes.isEmpty = true := by rw [HandshakeJoiner.isEmpty, hb]; rfl
    refine ⟨{ c with session := s' }, ?_, ?_, hready, rfl, hclose⟩
    · simp only [takeOpened, takeMessage, hempty, hr, hm, hdeliver, Bool.not_true,
        Bool.false_and, Bool.false_eq_true, if_false, true_or, if_true]
      rfl
    · rw [core, hrandom, hreceiving]
      exact congrArg (Core.mk stage' src (act.receiving d)) hb

end Connection

end TlsClient
