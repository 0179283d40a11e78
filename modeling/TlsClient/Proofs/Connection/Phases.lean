import TlsClient.Proofs.Connection.Intake

/-!
# The phases of a connection

At every moment a connection is in one of a few phases, and each fixes how the stage, the deeds and
the protection of both directions belong together: what the transcript holds, which bytes have been
opened and not handled, and whether anything is sealed.  The messages that were handled are a course
that leads to the stage.  Both survive every move (`Sound.step`).
-/

namespace TlsClient

open Deeds (handled wire opened taken)
open Session (Talks)

/-- What a connection starts from: its configuration, its first stage and its random bytes. -/
structure Origin where
  config : Config
  stage : Stage
  random : RandomSource

/-- The handshake messages lead from the origin to a stage. -/
abbrev Origin.Course (o : Origin) : List Message → Stage → RandomSource → Prop :=
  TlsClient.Course o.config o.stage o.random

/-! ## Replies that were made -/

/-- The deeds up to the end of the server's flight, which the client is about to answer. -/
def Origin.Answers (o : Origin) (es : List Event) (flight : Flight) (key : Option PublicKey)
    (request : Option CertificateRequest) (m : Message) (src : RandomSource) : Prop :=
  ∃ ms stage encoded, handled es = ms ++ [m] ∧ m.body = .handshake .serverHelloDone encoded ∧
    o.Course ms stage src ∧ stage.Answers flight key request

/-- A reply whose Finished comes right after some deeds, and covers them. -/
structure Origin.Finishes (o : Origin) (es : List Event) (r : Reply) : Prop where
  answers : ∃ flight key request m src src', o.Answers es flight key request m src ∧
    o.config.Replies flight key request m src r src'
  client : r.transcript.client = wire es
  server : r.transcript.server = wire es

/-- What the server's Finished has to cover. -/
def Reply.covered (r : Reply) : Bytes :=
  r.transcript.server ++ Transcript.contribution (Message.ofHandshake r.finished)

/-- The deeds of a reply before its Finished. -/
def Reply.unprotected (r : Reply) : List Event :=
  HandshakeMessage.logs (r.opening ++ r.proof) ++ Message.changeCipherSpec.log

/-- A reply whose Finished is among some deeds. -/
def Reply.Made (o : Origin) (r : Reply) (es : List Event) : Prop :=
  ∃ before after, es = before ++ .sent (Message.ofHandshake r.finished) :: after ∧ o.Finishes before r

/-- Among some deeds is the server's Finished: it proves what it has to cover, all unprotected
handshake bytes had been handled before it, and its own bytes came out of protected records. -/
def Reply.Verified (r : Reply) (es : List Event) : Prop :=
  ∃ before m proof encoded after, es = before ++ .handled m :: after ∧
    m.body = .handshake (.finished proof) encoded ∧
    proof = r.secrets.serverVerify (Transcript.digest (wire before)) ∧ wire before = r.covered ∧
    opened false before = taken before ∧ ∃ rest, opened true before = encoded ++ rest

theorem Reply.Made.mono {o : Origin} {r : Reply} {es : List Event} (h : r.Made o es)
    (fs : List Event) : r.Made o (es ++ fs) := by
  obtain ⟨before, after, rfl, h⟩ := h
  exact ⟨before, after ++ fs, by simp, h⟩

theorem Reply.Verified.mono {r : Reply} {es : List Event} (h : r.Verified es) (fs : List Event) :
    r.Verified (es ++ fs) := by
  obtain ⟨before, m, proof, encoded, after, rfl, h⟩ := h
  exact ⟨before, m, proof, encoded, after ++ fs, by simp, h⟩

/-- There is one reply in a handshake. -/
theorem Origin.Finishes.unique {o : Origin} {es fs : List Event} {r r' : Reply}
    (h : o.Finishes es r) (h' : o.Finishes (es ++ fs) r') : r' = r := by
  obtain ⟨flight, key, request, m, src, src₁, ⟨ms, stage, encoded, hms, hm, hcourse, hanswers⟩,
    hreply⟩ := h.answers
  obtain ⟨flight', key', request', m', src', src₁', ⟨ms', stage', encoded', hms', hm', hcourse',
    hanswers'⟩, hreply'⟩ := h'.answers
  rw [Deeds.handled_append, hms] at hms'
  rcases List.eq_nil_or_concat (handled fs) with hnil | ⟨xs, x, hxs⟩
  · rw [hnil, List.append_nil] at hms'
    obtain ⟨rfl, rfl⟩ := List.append_singleton_inj.mp hms'
    obtain ⟨rfl, rfl⟩ := hcourse.unique hcourse'
    obtain ⟨rfl, rfl, rfl⟩ := hanswers.unique hanswers'
    exact (hreply.unique hreply').1
  · -- a message after the end of the flight leads on from a stage that does not answer
    rw [hxs, List.concat_eq_append, ← List.append_assoc] at hms'
    obtain ⟨rfl, rfl⟩ := List.append_singleton_inj.mp hms'
    obtain ⟨stage₁, src₂, h₁, h₂⟩ := hcourse'.append_inv
    obtain ⟨stage₂, src₃, act, h₃, ht⟩ := h₁.concat_inv
    obtain ⟨rfl, rfl⟩ := hcourse.unique h₃
    have hlate : stage₁.Late := by
      cases ht with
      | reply => exact .keyChange _ _
      | request hbody => cases hm.symm.trans hbody
      | _ => cases hanswers
    exact absurd hanswers' (h₂.late hlate).not_answers

theorem Reply.Made.unique {o : Origin} {es fs : List Event} {r r' : Reply} (h : r.Made o es)
    (h' : r'.Made o (es ++ fs)) : r' = r := by
  obtain ⟨before, after, rfl, hr⟩ := h
  obtain ⟨before', after', heq, hr'⟩ := h'
  rw [List.append_assoc, List.cons_append] at heq
  rcases List.append_eq_append_iff.mp heq with ⟨mid, rfl, -⟩ | ⟨mid, rfl, -⟩
  · exact hr.unique hr'
  · exact (hr'.unique hr).symm

/-! ## Phases -/

/-- A stage before the reply, and its transcript. -/
inductive Stage.Gathers : Stage → Transcript → Prop
  | serverHello (random : HelloRandom) (t : Transcript) (offered : List ExtensionType) :
    Gathers (.serverHello random t offered) t
  | certificate (flight : Flight) : Gathers (.certificate flight) flight.transcript
  | serverParams (flight : Flight) (key : Option PublicKey) :
    Gathers (.serverParams flight key) flight.transcript
  | requestOrDone (flight : Flight) (key : Option PublicKey) :
    Gathers (.requestOrDone flight key) flight.transcript
  | done (flight : Flight) (key : Option PublicKey) (request : CertificateRequest) :
    Gathers (.done flight key request) flight.transcript

theorem Stage.Answers.gathers {stage : Stage} {flight : Flight} {key : Option PublicKey}
    {request : Option CertificateRequest} (h : stage.Answers flight key request) :
    stage.Gathers flight.transcript := by
  cases h with
  | unasked => exact .requestOrDone flight key
  | asked => exact .done flight key _

/-- A session that has sealed everything since a reply. -/
structure Session.Replied (o : Origin) (r : Reply) (s : Session) : Prop where
  isSealed : s.Sealed r.sending r.finishedRecord
  made : r.Made o s.deeds

/-- What holds of a session whatever the stage: it has sealed nothing or everything since a reply, and
the handshake counts as over only if the server's Finished was verified. -/
def Session.Kept (o : Origin) (s : Session) : Prop :=
  s.Clear ∨ ∃ r, s.Replied o r ∧ (s.traffic = true → r.Verified s.deeds)

/-- The phase that a connection is in. -/
inductive Connection.Phase (o : Origin) (c : Connection) : Prop
  | early {stage : Stage} {t : Transcript} (hstage : c.stage = .ok stage) (ht : stage.Gathers t)
    (hholds : t.Holds (wire c.session.deeds)) (hclear : c.session.Clear)
    (hreads : c.session.ReadsClear c.handshakes.pending)
  | replied {r : Reply} (hstage : c.stage = .ok (.keyChange r.secrets r.covered))
    (hreplied : c.session.Replied o r) (htraffic : c.session.traffic = false)
    (hwire : wire c.session.deeds = r.covered)
    (hreads : c.session.ReadsClear c.handshakes.pending)
  | keyed {r : Reply} (hstage : c.stage = .ok (.finished r.secrets r.covered))
    (hreplied : c.session.Replied o r) (htraffic : c.session.traffic = false)
    (hwire : wire c.session.deeds = r.covered)
    (hreads : c.session.ReadsKeyed c.handshakes.pending)
  | complete {r : Reply} (hstage : c.stage = .ok .traffic) (hreplied : c.session.Replied o r)
    (htraffic : c.session.traffic = true) (hverified : r.Verified c.session.deeds)
  | ended {e : TlsError} (hstage : c.stage = .error e) (hkept : c.session.Kept o)

namespace Session

variable {o : Origin} {r : Reply} {s s' : Session} {es : List Event}

theorem Replied.takes (h : s.Replied o r) (ht : Takes es s s') : s'.Replied o r :=
  ⟨ht.isSealed h.isSealed, ht.deeds ▸ h.made.mono es⟩

theorem Replied.talks (h : s.Replied o r) (ht : Talks s s') : s'.Replied o r := by
  obtain ⟨es, hes, -⟩ := ht.deeds
  exact ⟨h.isSealed.talks ht, hes ▸ h.made.mono es⟩

theorem Kept.takes (h : s.Kept o) (ht : Takes es s s') : s'.Kept o := by
  rcases h with h | ⟨r, h, hv⟩
  · exact .inl (ht.clear h)
  · exact .inr ⟨r, h.takes ht, fun htraffic => ht.deeds ▸ (hv (ht.traffic ▸ htraffic)).mono es⟩

theorem Kept.talks (h : s.Kept o) (ht : Talks s s') : s'.Kept o := by
  rcases h with h | ⟨r, h, hv⟩
  · exact .inl (h.talks ht)
  · obtain ⟨es, hes, -⟩ := ht.deeds
    exact .inr ⟨r, h.talks ht, fun htraffic => hes ▸ (hv (ht.traffic ▸ htraffic)).mono es⟩

/-- Talk leaves what was handled alone, and puts no handshake bytes on the wire. -/
theorem Talks.handled_eq (h : Talks s s') : handled s'.deeds = handled s.deeds := by
  obtain ⟨es, hes, hall⟩ := h.deeds
  rw [hes, Deeds.handled_append, Deeds.handled_talk hall, List.append_nil]

theorem Talks.wire_eq (h : Talks s s') : wire s'.deeds = wire s.deeds := by
  obtain ⟨es, hes, hall⟩ := h.deeds
  rw [hes, Deeds.wire_append, Deeds.wire_talk hall, List.append_nil]

theorem handled_sendRecord (s : Session) (r : Record) :
    handled (s.sendRecord r).deeds = handled s.deeds := by
  obtain ⟨es, hes, hall⟩ := deeds_sendRecord s r
  have hnone : handled es = [] := List.filterMap_eq_nil_iff.mpr fun e he => by
    obtain ⟨wire, rfl⟩ := hall e he
    rfl
  rw [hes, Deeds.handled_append, hnone, List.append_nil]

theorem handled_sendFragment (s : Session) (r : Record) :
    handled (s.sendFragment r).deeds = handled s.deeds := by
  unfold sendFragment
  split
  · exact (handled_sendRecord _ r).trans (talks_sendClose s).handled_eq
  · exact handled_sendRecord s r

/-- To send a message is to handle none. -/
theorem handled_send (s : Session) (m : Message) : handled (s.send m).deeds = handled s.deeds := by
  have hfragments (rs : List Record) (s : Session) :
      handled (rs.foldl sendFragment s).deeds = handled s.deeds := by
    induction rs generalizing s with
    | nil => rfl
    | cons r rs ih => exact (ih _).trans (handled_sendFragment s r)
  refine (hfragments _ _).trans ?_
  rw [deeds_happened, Deeds.handled_append]
  exact List.append_nil _

end Session

namespace Connection

variable {o : Origin} {c c' : Connection}

/-- Before the client has to reply nothing has been sealed. -/
theorem Phase.idle (h : c.Phase o) {stage : Stage} (hstage : c.stage = .ok stage) :
    ∀ flight key request, stage.Answers flight key request → c.session.Idle := by
  intro flight key request ha
  cases h with
  | early hstage' ht hholds hclear => exact hclear.idle
  | replied hstage' => rw [hstage] at hstage'; cases hstage'; cases ha
  | keyed hstage' => rw [hstage] at hstage'; cases hstage'; cases ha
  | complete hstage' => rw [hstage] at hstage'; cases hstage'; cases ha
  | ended hstage' => rw [hstage] at hstage'; cases hstage'

theorem Phase.kept (h : c.Phase o) : c.session.Kept o := by
  cases h with
  | early hstage ht hholds hclear => exact .inl hclear
  | replied hstage hreplied htraffic =>
    exact .inr ⟨_, hreplied, fun h => by rw [htraffic] at h; cases h⟩
  | keyed hstage hreplied htraffic =>
    exact .inr ⟨_, hreplied, fun h => by rw [htraffic] at h; cases h⟩
  | complete hstage hreplied htraffic hverified => exact .inr ⟨_, hreplied, fun _ => hverified⟩
  | ended hstage hkept => exact hkept

/-- A phase survives talk. -/
theorem Phase.talks (h : c.Phase o) (hstage : c'.stage = c.stage)
    (hpending : c'.handshakes.pending = c.handshakes.pending) (ht : Talks c.session c'.session) :
    c'.Phase o := by
  cases h with
  | early hs hg hholds hclear hreads =>
    refine .early (hstage.trans hs) hg (ht.wire_eq ▸ hholds) (hclear.talks ht) ?_
    rw [hpending]
    exact hreads.talks ht
  | replied hs hreplied htraffic hwire hreads =>
    refine .replied (hstage.trans hs) (hreplied.talks ht) (ht.traffic.trans htraffic)
      (ht.wire_eq.trans hwire) ?_
    rw [hpending]
    exact hreads.talks ht
  | keyed hs hreplied htraffic hwire hreads =>
    refine .keyed (hstage.trans hs) (hreplied.talks ht) (ht.traffic.trans htraffic)
      (ht.wire_eq.trans hwire) ?_
    rw [hpending]
    exact hreads.talks ht
  | complete hs hreplied htraffic hverified =>
    obtain ⟨es, hes, -⟩ := ht.deeds
    exact .complete (hstage.trans hs) (hreplied.talks ht) (ht.traffic.trans htraffic)
      (hes ▸ hverified.mono es)
  | ended hs hkept => exact .ended (hstage.trans hs) (hkept.talks ht)

/-- A phase survives a record that is opened. -/
theorem Phase.opens (h : c.Phase o) {r : Record} (hstage : c'.stage = c.stage)
    (hpending : c'.handshakes.pending = c.handshakes.pending ++ r.handshakePayload)
    (ho : c.session.Opens r c'.session) : c'.Phase o := by
  have htakes := ho.takes
  have hwire : wire c'.session.deeds = wire c.session.deeds := by
    rw [htakes.deeds, Deeds.wire_append, Deeds.wire_opened, List.append_nil]
  cases h with
  | early hs hg hholds hclear hreads =>
    refine .early (hstage.trans hs) hg (hwire ▸ hholds) (htakes.clear hclear) ?_
    rw [hpending]
    exact hreads.opens ho
  | replied hs hreplied htraffic hw hreads =>
    refine .replied (hstage.trans hs) (hreplied.takes htakes) (htakes.traffic.trans htraffic)
      (hwire.trans hw) ?_
    rw [hpending]
    exact hreads.opens ho
  | keyed hs hreplied htraffic hw hreads =>
    refine .keyed (hstage.trans hs) (hreplied.takes htakes) (htakes.traffic.trans htraffic)
      (hwire.trans hw) ?_
    rw [hpending]
    exact hreads.opens ho
  | complete hs hreplied htraffic hverified =>
    exact .complete (hstage.trans hs) (hreplied.takes htakes) (htakes.traffic.trans htraffic)
      (htakes.deeds ▸ hverified.mono _)
  | ended hs hkept => exact .ended (hstage.trans hs) (hkept.takes htakes)

/-! ## A message that is taken in -/

theorem gathers_unique {stage : Stage} {t t' : Transcript} (h : stage.Gathers t)
    (h' : stage.Gathers t') : t' = t := by
  cases h <;> cases h' <;> rfl

/-- At a stage before the reply the phase is early. -/
theorem Phase.of_gathers (h : c.Phase o) {stage : Stage} {t : Transcript}
    (hstage : c.stage = .ok stage) (ht : stage.Gathers t) :
    t.Holds (wire c.session.deeds) ∧ c.session.Clear ∧
      c.session.ReadsClear c.handshakes.pending := by
  cases h with
  | early hs hg hholds hclear hreads =>
    rw [hstage] at hs
    cases hs
    rw [← gathers_unique ht hg]
    exact ⟨hholds, hclear, hreads⟩
  | replied hs => rw [hstage] at hs; cases hs; cases ht
  | keyed hs => rw [hstage] at hs; cases hs; cases ht
  | complete hs => rw [hstage] at hs; cases hs; cases ht
  | ended hs => rw [hstage] at hs; cases hs

/-- A message that is only gathered leaves the connection in the early phase. -/
theorem Phase.gathers (h : c.Phase o) {stage stage' : Stage} {t : Transcript} {m : Message}
    {rest : List Message} {suite : Option Suite} (hstage : c.stage = .ok stage)
    (ht : stage.Gathers t) (hready : c.handshakes.ready = m :: rest)
    (hjoin : c'.handshakes = { c.handshakes with ready := rest }) (hstage' : c'.stage = .ok stage')
    (ht' : stage'.Gathers (t.add m))
    (htalk : Talks { c.session.happened (.handled m) with suite } c'.session) : c'.Phase o := by
  obtain ⟨hholds, hclear, hreads⟩ := h.of_gathers hstage ht
  have htakes : Session.Takes [.handled m] c.session
      { c.session.happened (.handled m) with suite } :=
    ⟨(Session.takes_handled c.session m).deeds, rfl, rfl, rfl⟩
  have hpending : c.handshakes.pending = Transcript.contribution m ++ c'.handshakes.pending := by
    rw [HandshakeJoiner.pending, HandshakeJoiner.pending, hready, hjoin, List.flatMap_cons,
      List.append_assoc]
  rw [hpending] at hreads
  refine .early hstage' ht' ?_ ((htakes.clear hclear).talks htalk) ((hreads.handles htakes rfl).talks htalk)
  rw [htalk.wire_eq, htakes.deeds, Deeds.wire_append, Deeds.wire_handled]
  exact hholds.add m

theorem records_keyChange :
    Deeds.records Message.changeCipherSpec.log = [(Record.keyChange, Record.keyChange)] := by
  rw [Message.records_log, Record.fragments_of_length_le (by decide)]
  rfl

/-- The Finished of a reply to the server's flight covers what was on the wire. -/
theorem Phase.finishes_reply (h : c.Phase o) {stage : Stage} {flight : Flight}
    {key : Option PublicKey} {request : Option CertificateRequest} {m : Message} {encoded : Bytes}
    {r : Reply} {src : RandomSource}
    (hcourse : o.Course (handled c.session.deeds) stage c.session.random)
    (hstage : c.stage = .ok stage) (hanswers : stage.Answers flight key request)
    (hm : m.body = .handshake .serverHelloDone encoded)
    (hreply : o.config.Replies flight key request m c.session.random r src) :
    o.Finishes (c.session.deeds ++ [.handled m] ++ r.unprotected) r := by
  obtain ⟨hholds, -, -⟩ := h.of_gathers hstage hanswers.gathers
  have htranscript : ∀ field : Transcript → Bytes,
      (∀ t m, field (Transcript.add t m) = field t ++ Transcript.contribution m) →
      (∀ t : Transcript, field { t with verify := none } = field t) →
      field flight.transcript = wire c.session.deeds →
      field r.transcript = wire (c.session.deeds ++ [.handled m] ++ r.unprotected) := by
    intro field hadd hverify hfield
    have haddAll := Transcript.addAll_part hadd
    rw [hreply.transcript, haddAll, hverify, haddAll, hadd, hfield, Reply.unprotected]
    simp only [Deeds.wire_append, Deeds.wire_handled, HandshakeMessage.wire_logs,
      Transcript.contributions_append, Message.wire_log, List.append_assoc]
    simp [Transcript.contribution, Message.changeCipherSpec]
  refine ⟨⟨flight, key, request, m, c.session.random, src, ⟨handled c.session.deeds, stage, encoded,
    ?_, hm, hcourse, hanswers⟩, hreply⟩, ?_, ?_⟩
  · simp only [Reply.unprotected, Deeds.handled_append, Deeds.handled_handled,
      HandshakeMessage.handled_logs, Message.handled_log, List.append_nil]
  · exact htranscript Transcript.client (fun _ _ => rfl) (fun _ => rfl) hholds.2.1
  · exact htranscript Transcript.server (fun _ _ => rfl) (fun _ => rfl) hholds.2.2

theorem answered_deeds {s s' : Session} {m : Message} {r : Reply}
    (h : r.Answered (s.happened (.handled m)) s') :
    ∃ w q, r.sending.protect 0 r.finishedRecord = (.ok w, q) ∧
      s'.layer = { sending := ⟨some q, 1, .active⟩, receiving := .prepare r.receiving } ∧
      s'.deeds = s.deeds ++ [.handled m] ++ r.unprotected ++
        [.sent (Message.ofHandshake r.finished), .queued r.finishedRecord w] := by
  obtain ⟨w, q, hw, hlayer, hdeeds⟩ := h.sealing
  refine ⟨w, q, hw, hlayer, ?_⟩
  rw [hdeeds, (Session.takes_handled s m).deeds, Reply.unprotected]
  simp only [List.append_assoc]

/-- The first record that is sealed is the Finished of a reply. -/
theorem clear_answered {s s' : Session} {m : Message} {r : Reply} (h : s.Clear)
    (hanswered : r.Answered (s.happened (.handled m)) s') :
    s'.Sealed r.sending r.finishedRecord := by
  obtain ⟨w, q, hw, hlayer, hdeeds⟩ := answered_deeds hanswered
  have hrecords : Deeds.records s'.deeds =
      (Deeds.records s.deeds ++ Deeds.records (HandshakeMessage.logs (r.opening ++ r.proof)))
        ++ (Record.keyChange, Record.keyChange) :: (r.finishedRecord, w) :: [] := by
    rw [hdeeds, Reply.unprotected]
    simp only [Deeds.records_append, Deeds.records_handled, records_keyChange, List.append_assoc]
    rfl
  refine ⟨_, w, [], q, hrecords, fun x hx => ?_, fun x hx => ?_, .snoc .nil hw, ?_, ?_⟩
  · rcases List.mem_append.mp hx with hx | hx
    · exact h.records x hx
    · obtain ⟨heq, ht⟩ := HandshakeMessage.records_logs hx
      exact ⟨heq, by rw [ht]; decide, by rw [ht]; decide⟩
  · obtain rfl := List.mem_singleton.mp hx
    show ContentType.handshake ≠ .changeCipherSpec
    decide
  · rw [List.length_singleton]
    decide
  · rw [hlayer]
    rfl

/-- The reply to the server's flight seals everything that follows. -/
theorem Phase.replies (h : c.Phase o) {stage : Stage} {flight : Flight} {key : Option PublicKey}
    {request : Option CertificateRequest} {m : Message} {rest : List Message} {encoded : Bytes}
    {r : Reply} {src : RandomSource}
    (hcourse : o.Course (handled c.session.deeds) stage c.session.random)
    (hstage : c.stage = .ok stage) (hanswers : stage.Answers flight key request)
    (hready : c.handshakes.ready = m :: rest)
    (hjoin : c'.handshakes = { c.handshakes with ready := rest })
    (hstage' : c'.stage = .ok r.stage) (hm : m.body = .handshake .serverHelloDone encoded)
    (hreply : o.config.Replies flight key request m c.session.random r src)
    (hanswered : r.Answered (c.session.happened (.handled m)) c'.session) : c'.Phase o := by
  obtain ⟨hholds, hclear, hreads⟩ := h.of_gathers hstage hanswers.gathers
  have hfinishes := h.finishes_reply hcourse hstage hanswers hm hreply
  obtain ⟨w, q, -, hlayer, hdeeds⟩ := answered_deeds hanswered
  have hmade : r.Made o c'.session.deeds := ⟨_, _, hdeeds, hfinishes⟩
  have hsealed := clear_answered hclear hanswered
  have hpending : c.handshakes.pending = Transcript.contribution m ++ c'.handshakes.pending := by
    rw [HandshakeJoiner.pending, HandshakeJoiner.pending, hready, hjoin, List.flatMap_cons,
      List.append_assoc]
  refine .replied hstage' ⟨hsealed, hmade⟩ (hanswered.traffic.trans hclear.traffic) ?_ ⟨?_, ?_, ?_⟩
  · rw [hdeeds, Deeds.wire_append, ← hfinishes.server, Reply.covered]
    exact congrArg _ (List.append_nil _)
  · rw [hlayer]
    rfl
  · rw [hdeeds, Reply.unprotected]
    simp only [Deeds.opened_append, Deeds.taken_append, Deeds.opened_handled, Deeds.taken_handled,
      HandshakeMessage.opened_logs, HandshakeMessage.taken_logs, Message.opened_log,
      Message.taken_log, List.append_nil]
    have hopened : opened false [.sent (Message.ofHandshake r.finished), .queued r.finishedRecord w]
        = [] := rfl
    have htaken : taken [.sent (Message.ofHandshake r.finished), .queued r.finishedRecord w] = [] := rfl
    rw [hopened, htaken, hreads.clear, hpending, List.append_nil, List.append_nil, List.append_assoc]
  · rw [hdeeds, Reply.unprotected]
    simp only [Deeds.opened_append, Deeds.opened_handled, HandshakeMessage.opened_logs,
      Message.opened_log, List.append_nil, hreads.keyed]
    rfl

/-- The signal of the key change comes between two handshake messages, and what is opened after it
takes keys. -/
theorem Phase.keyChanges (h : c.Phase o) {secrets : Secrets} {t : Bytes} {m : Message}
    {rest : List Message} (hstage : c.stage = .ok (.keyChange secrets t))
    (hready : c.handshakes.ready = m :: rest) (hwaits : c.handshakes.Waits)
    (hjoin : c'.handshakes = { c.handshakes with ready := rest })
    (hstage' : c'.stage = .ok (.finished secrets t)) (hm : m.body = .changeCipherSpec)
    (htalk : Talks (c.session.happened (.handled m)).startReceiving c'.session) : c'.Phase o := by
  cases h with
  | early hs hg => rw [hstage] at hs; cases hs; cases hg
  | keyed hs => rw [hstage] at hs; cases hs
  | complete hs => rw [hstage] at hs; cases hs
  | ended hs => rw [hstage] at hs; cases hs
  | replied hs hreplied htraffic hwire hreads =>
    rw [hstage] at hs
    cases hs
    have hnone : Transcript.contribution m = [] := by rw [Transcript.contribution, hm]
    have halone : rest = [] ∧ c.handshakes.buffer = [] := by
      rcases hwaits with hjoined | ⟨x, hx, -, hbuffer⟩
      · obtain ⟨v, hv⟩ := hjoined m (by rw [hready]; exact List.mem_cons_self)
        have htyp := hv.typ
        rw [hm] at htyp
        cases htyp
      · rw [hready] at hx
        exact ⟨(List.cons.inj hx).2, hbuffer⟩
    have hpending : c.handshakes.pending = [] := by
      rw [HandshakeJoiner.pending, hready, halone.1, halone.2]
      simp [hnone]
    have hpending' : c'.handshakes.pending = [] := by
      rw [HandshakeJoiner.pending, hjoin, halone.1, halone.2]
      rfl
    have htakes : Session.Takes [.handled m] c.session
        (c.session.happened (.handled m)).startReceiving :=
      ⟨(Session.takes_handled c.session m).deeds, rfl, rfl, rfl⟩
    have hkeyed : (c.session.happened (.handled m)).startReceiving.ReadsKeyed [] := by
      refine ⟨rfl, ?_, ?_⟩
      · rw [htakes.deeds, Deeds.opened_append, Deeds.taken_append, hreads.clear, hpending,
          Deeds.taken_handled, hnone, Deeds.opened_handled, List.append_nil]
      · rw [htakes.deeds, Deeds.opened_append, hreads.keyed]
        rfl
    refine .keyed hstage' ((hreplied.takes htakes).talks htalk)
      (htalk.traffic.trans (htakes.traffic.trans htraffic)) ?_ ?_
    · rw [htalk.wire_eq, htakes.deeds, Deeds.wire_append, hwire, Deeds.wire_handled, hnone,
        List.append_nil]
    · rw [hpending']
      exact hkeyed.talks htalk

/-- The server's Finished, if it proves what it has to cover, completes the handshake. -/
theorem Phase.verifies (h : c.Phase o) {secrets : Secrets} {t proof encoded : Bytes} {m : Message}
    {rest : List Message} (hstage : c.stage = .ok (.finished secrets t))
    (hready : c.handshakes.ready = m :: rest)
    (hm : m.body = .handshake (.finished proof) encoded)
    (hproof : secrets.serverVerify (Transcript.digest t) = proof) :
    ∃ r : Reply, ({ c.session.happened (.handled m) with traffic := true } : Session).Replied o r ∧
      r.Verified ({ c.session.happened (.handled m) with traffic := true } : Session).deeds := by
  cases h with
  | early hs hg => rw [hstage] at hs; cases hs; cases hg
  | replied hs => rw [hstage] at hs; cases hs
  | complete hs => rw [hstage] at hs; cases hs
  | ended hs => rw [hstage] at hs; cases hs
  | @keyed r hs hreplied htraffic hwire hreads =>
    rw [hstage] at hs
    cases hs
    have hdeeds : ({ c.session.happened (.handled m) with traffic := true } : Session).deeds =
        c.session.deeds ++ [.handled m] := (Session.takes_handled c.session m).deeds
    refine ⟨r, ⟨hreplied.isSealed.of_eq ?_ rfl, hdeeds ▸ hreplied.made.mono _⟩,
      c.session.deeds, m, proof, encoded, [], hdeeds, hm, ?_, hwire, hreads.clear,
      rest.flatMap Transcript.contribution ++ c.handshakes.buffer, ?_⟩
    · rw [hdeeds, Deeds.records_append]
      exact List.append_nil _
    · rw [← hproof, hwire]
    · rw [hreads.keyed, HandshakeJoiner.pending, hready, List.flatMap_cons, List.append_assoc,
        Transcript.contribution, hm]

/-- A message that is taken in leads from phase to phase. -/
theorem Phase.takes (h : c.Phase o) {stage stage' : Stage} {m : Message} {rest : List Message}
    {act : Stage.Act} {src : RandomSource}
    (hcourse : o.Course (handled c.session.deeds) stage c.session.random)
    (hstage : c.stage = .ok stage) (hready : c.handshakes.ready = m :: rest)
    (hwaits : c.handshakes.Waits) (hjoin : c'.handshakes = { c.handshakes with ready := rest })
    (hstage' : c'.stage = .ok stage')
    (ht : stage.Takes o.config c.session.random m act stage' src)
    (hact : act.Performed (c.session.happened (.handled m)) c'.session) : c'.Phase o := by
  cases ht with
  | hello hm hcheck hstart =>
    refine h.gathers hstage (.serverHello _ _ _) hready hjoin hstage' ?_ hact
    unfold Stage.afterHello
    split
    · exact .certificate _
    · exact .serverParams _ _
  | certificate hm hcheck =>
    refine h.gathers hstage (.certificate _) hready hjoin hstage' ?_ hact
    split
    · exact .serverParams _ _
    · exact .requestOrDone _ _
  | params hm hcheck =>
    exact h.gathers hstage (.serverParams _ _) hready hjoin hstage' (.requestOrDone _ _) hact
  | request hm =>
    exact h.gathers hstage (.requestOrDone _ _) hready hjoin hstage' (.done _ _ _) hact
  | reply hanswers hm hreply =>
    exact h.replies hcourse hstage hanswers hready hjoin hstage' hm hreply hact
  | keyChange hm => exact h.keyChanges hstage hready hwaits hjoin hstage' hm hact
  | finished hm hproof =>
    obtain ⟨r, hreplied, hverified⟩ := h.verifies hstage hready hm hproof
    obtain ⟨es, hes, -⟩ := Session.Talks.deeds hact
    exact .complete hstage' (hreplied.talks hact) (Session.Talks.traffic hact) (hes ▸ hverified.mono es)
  | data hm =>
    cases h with
    | early hs hg => rw [hstage] at hs; cases hs; cases hg
    | replied hs => rw [hstage] at hs; cases hs
    | keyed hs => rw [hstage] at hs; cases hs
    | ended hs => rw [hstage] at hs; cases hs
    | complete hs hreplied htraffic hverified =>
      have htakes := Session.takes_handled c.session m
      obtain ⟨es, hes, -⟩ := hact.deeds
      refine .complete hstage' ((hreplied.takes htakes).talks hact)
        (hact.traffic.trans (htakes.traffic.trans htraffic)) ?_
      rw [hes, htakes.deeds]
      exact (hverified.mono _).mono es

end Connection

end TlsClient
