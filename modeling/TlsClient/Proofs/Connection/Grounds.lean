import TlsClient.Proofs.Connection.Soundness

/-!
# The grounds of a deed

Some deeds of a session need grounds in what was done before them: the messages of the client's reply,
application data, and what is handled.  `Origin.Explains` says which, and every deed of every run has
them (`Starts.grounds`).  A message that is handled finds a stage whose transcript has kept up with the
wire (`Stage.Covers`), and is the next piece of what was opened (`Stage.Reads`).
-/

namespace TlsClient

open Deeds (handled wire opened taken Justified)
open HandshakeMessage (logs)
open Session (Talks Says)

/-- The client's Finished after some deeds: it proves all handshake bytes on the wire. -/
def Secrets.clientFinished (secrets : Secrets) (es : List Event) : Message :=
  .ofHandshake (.finished (secrets.clientVerify (Transcript.digest (wire es))))

/-- Among some deeds is the client's Finished, and no handshake bytes came after it. -/
def Secrets.ClientProves (secrets : Secrets) (es : List Event) : Prop :=
  ∃ before after, es = before ++ .sent (secrets.clientFinished before) :: after ∧
    wire es = wire before ++ Transcript.contribution (secrets.clientFinished before)

/-- A stage whose transcript holds all handshake bytes on the wire. -/
inductive Stage.Covers (es : List Event) : Stage → Prop
  | gathers {stage t} (ht : stage.Gathers t) (h : t.Holds (wire es)) : Covers es stage
  | keyChange {secrets} (h : secrets.ClientProves es) : Covers es (.keyChange secrets (wire es))
  | finished {secrets} (h : secrets.ClientProves es) : Covers es (.finished secrets (wire es))
  | traffic : Covers es .traffic

/-- At a stage of the handshake a message is made of the first bytes that were opened and not handled.
Up to the key change none of them took keys; the Finished after it is all that did. -/
def Stage.Reads (es : List Event) (m : Message) : Stage → Prop
  | .traffic => True
  | .finished .. => opened false es = taken es ∧
      ∃ rest, opened true es = Transcript.contribution m ++ rest
  | _ => opened true es = [] ∧
      ∃ rest, opened false es = taken es ++ Transcript.contribution m ++ rest

namespace Origin

/-- A message that is handled: how it was read, the stage that it is given to, and where its bytes came
from. -/
structure Receives (o : Origin) (before : List Event) (m : Message) : Prop where
  joined : m.body.typ = .handshake → ∃ v, m.Joined v
  stage : ∃ stage src, o.Course (handled before) stage src ∧ stage.Covers before ∧
    stage.Reads before m

/-- Before the client's contribution to the key exchange comes the server's whole flight; the
contribution is what the exchange gives. -/
def Agrees (o : Origin) (before : List Event) (contribution : Bytes) : Prop :=
  ∃ flight key request m src agreement src', o.Answers before flight key request m src ∧
    (flight.exchange.agree key).run src = (.ok agreement, src') ∧
    agreement.contribution = contribution

/-- Before the client's proof comes its contribution to the key exchange; the signature is that of the
certified key, over all that was on the wire. -/
def Proves (o : Origin) (before : List Event) (signature : Bytes) : Prop :=
  ∃ flight key request m src auth, o.Answers before flight key request m src ∧
    o.config.authFor request = some auth ∧ auth.key.sign (wire before) = .ok signature ∧
    ∃ es contribution, before = es ++ logs [.clientKeyExchange contribution]

/-- Before application data comes the server's Finished, which answers the client's. -/
def Authenticates (o : Origin) (before : List Event) : Prop :=
  ∃ r : Reply, r.Made o before ∧ r.Verified before

/-- What a handshake message of the client's has as its grounds. -/
def ExplainsMessage (o : Origin) (before : List Event) : HandshakeMessage → Prop
  | .clientKeyExchange contribution => o.Agrees before contribution
  | .certificateVerify signature => o.Proves before signature
  | .finished proof => ∃ r : Reply, o.Finishes before r ∧
      proof = r.secrets.clientVerify (Transcript.digest (wire before))
  | _ => True

/-- The grounds of a deed among those before it. -/
def Explains (o : Origin) (before : List Event) : Event → Prop
  | .sent m => ∀ parsed encoded, m.body = .handshake parsed encoded → o.ExplainsMessage before parsed
  | .queued plain _ => plain.typ = .applicationData → o.Authenticates before
  | .handled m => o.Receives before m
  | _ => True

end Origin

namespace Connection

variable {o : Origin} {c c' : Connection}

/-- New deeds that all have grounds. -/
abbrev Grounded (o : Origin) (es fs : List Event) : Prop :=
  Justified (fun before => o.Explains (es ++ before)) fs

theorem grounds_talk {s s' : Session} (hkept : s.Kept o) (h : Talks s s')
    (hs : Justified o.Explains s.deeds) : Justified o.Explains s'.deeds := by
  obtain ⟨es, hes, hall⟩ := h.deeds
  rw [hes, Deeds.justified_append]
  refine ⟨hs, Deeds.justified_of_forall fun before e he => ?_⟩
  have htalk := hall e he
  cases e with
  | sent m =>
    intro parsed encoded hm
    have ht : m.body.typ = .alert := htalk
    rw [hm] at ht
    cases ht
  | queued plain wire =>
    intro ht
    rcases htalk with halert | ⟨-, htraffic⟩
    · rw [ht] at halert
      cases halert
    · rcases hkept with hclear | ⟨r, hreplied, hverified⟩
      · rw [hclear.traffic] at htraffic
        cases htraffic
      · exact ⟨r, hreplied.made.mono before, (hverified htraffic).mono before⟩
  | _ => exact htalk.elim

theorem grounded_append {es fs gs : List Event} :
    Grounded o es (fs ++ gs) ↔ Grounded o es fs ∧ Grounded o (es ++ fs) gs := by
  rw [Grounded, Deeds.justified_append]
  simp only [Grounded, List.append_assoc]

/-- A message that is sent without protection has the grounds that its content needs. -/
theorem grounded_log {es : List Event} {m : Message} (hm : m.body.typ ≠ .applicationData)
    (h : o.Explains es (.sent m)) : Grounded o es m.log := by
  rw [Grounded, Message.log, Deeds.justified_cons]
  refine ⟨by rwa [List.append_nil], Deeds.justified_of_forall fun before e he => ?_⟩
  obtain ⟨r, hr, rfl⟩ := List.mem_map.mp he
  intro ht
  exact absurd ((Record.of_mem_fragments hr).1.symm.trans ht) hm

theorem grounded_logs_singleton {es : List Event} {h : HandshakeMessage}
    (hh : o.ExplainsMessage es h) : Grounded o es (logs [h]) := by
  rw [HandshakeMessage.logs_singleton]
  refine grounded_log (m := .ofHandshake h) ?_ fun parsed encoded hm => ?_
  · show ContentType.handshake ≠ .applicationData
    decide
  · cases hm
    exact hh

theorem grounded_presented (es : List Event) (chain : Option (List Certificate)) :
    Grounded o es (logs (Reply.presented chain)) := by
  cases chain with
  | none => exact Deeds.justified_nil _
  | some chain => exact grounded_logs_singleton (h := .certificate chain) trivial

/-- The grounds of a reply lie in the messages that were handled, so what is sent keeps them. -/
theorem answers_mono {es fs : List Event} {flight : Flight} {key : Option PublicKey}
    {request : Option CertificateRequest} {m : Message} {src : RandomSource}
    (h : o.Answers es flight key request m src) (hfs : handled fs = []) :
    o.Answers (es ++ fs) flight key request m src := by
  obtain ⟨ms, stage, encoded, hhandled, hrest⟩ := h
  exact ⟨ms, stage, encoded, by rw [Deeds.handled_append, hfs, List.append_nil, hhandled], hrest⟩

/-- The beginning of a reply has its grounds. -/
theorem grounded_breaks {es : List Event} {flight : Flight} {key : Option PublicKey}
    {request : Option CertificateRequest} {m : Message} {src : RandomSource}
    {ms : List HandshakeMessage} (ha : o.Answers es flight key request m src)
    (h : o.config.Breaks flight key request src ms) : Grounded o es (logs ms) := by
  cases h with
  | disagree => exact grounded_presented es _
  | unsigned agreement src' hagree =>
    rw [HandshakeMessage.logs_append, grounded_append]
    exact ⟨grounded_presented es _, grounded_logs_singleton
      ⟨flight, key, request, m, src, agreement, src',
        answers_mono ha (HandshakeMessage.handled_logs _), hagree, rfl⟩⟩

/-- The signature of a reply is that of the client's key, over all that was on the wire. -/
theorem grounded_proof {es : List Event} {flight : Flight} {key : Option PublicKey}
    {request : Option CertificateRequest} {m : Message} {src src' : RandomSource} {r : Reply}
    (ha : o.Answers es flight key request m src)
    (h : o.config.Replies flight key request m src r src')
    (hholds : (flight.transcript.add m).Holds (wire es)) :
    Grounded o (es ++ logs r.opening) (logs r.proof) := by
  have hprove := h.signature
  rw [hholds.verify_addAll] at hprove
  rcases Config.of_prove_ok hprove with ⟨-, hsignature⟩ | ⟨auth, bs, made, hauth, hbs, hsign, hsignature⟩
  · rw [Reply.proof, hsignature]
    exact Deeds.justified_nil _
  · have hproof : r.proof = [.certificateVerify made] := by rw [Reply.proof, hsignature]; rfl
    cases hbs
    rw [hproof]
    refine grounded_logs_singleton ⟨flight, key, request, m, src, auth,
      answers_mono ha (HandshakeMessage.handled_logs _), hauth, hsign,
      es ++ logs (Reply.presented r.certificate), r.agreement.contribution, ?_⟩
    rw [Reply.opening, HandshakeMessage.logs_append, List.append_assoc]

/-- A reply has its grounds. -/
theorem grounded_reply {s s' : Session} {flight : Flight} {key : Option PublicKey}
    {request : Option CertificateRequest} {m : Message} {src src' : RandomSource} {r : Reply}
    (ha : o.Answers s.deeds flight key request m src)
    (h : o.config.Replies flight key request m src r src')
    (hholds : (flight.transcript.add m).Holds (wire s.deeds))
    (hfinishes : o.Finishes (s.deeds ++ r.unprotected) r) (hanswered : r.Answered s s')
    (hs : Justified o.Explains s.deeds) : Justified o.Explains s'.deeds := by
  obtain ⟨w, q, -, -, hdeeds⟩ := hanswered.sealing
  have hbegin : o.config.Breaks flight key request src r.opening := by
    rw [Reply.opening, h.certificate]
    exact .unsigned r.agreement src' h.agreement
  have hkeyChange : ∀ es, Grounded o es Message.changeCipherSpec.log := fun es =>
    grounded_log (by decide) fun parsed encoded hm => by cases hm
  rw [hdeeds, Deeds.justified_append]
  refine ⟨hs, ?_⟩
  show Grounded o s.deeds _
  rw [grounded_append, grounded_append, HandshakeMessage.logs_append, grounded_append]
  refine ⟨⟨⟨grounded_breaks ha hbegin, grounded_proof ha h hholds⟩, hkeyChange _⟩, ?_⟩
  rw [← HandshakeMessage.logs_append, ← Reply.unprotected, Grounded, Deeds.justified_cons,
    Deeds.justified_singleton]
  refine ⟨fun parsed encoded hm => ?_, fun ht => by cases ht⟩
  cases hm
  rw [List.append_nil]
  exact ⟨r, hfinishes, by rw [← hfinishes.client]⟩

/-- The end of the server's flight, once handled, is what the client answers. -/
theorem Sound.answers (h : c.Sound o) {stage : Stage} {flight : Flight} {key : Option PublicKey}
    {request : Option CertificateRequest} {m : Message} {encoded : Bytes} (hok : c.stage = .ok stage)
    (hanswers : stage.Answers flight key request)
    (hm : m.body = .handshake .serverHelloDone encoded) :
    o.Answers (c.session.happened (.handled m)).deeds flight key request m c.session.random := by
  refine ⟨handled c.session.deeds, stage, encoded, ?_, hm, h.course.onCourse stage hok, hanswers⟩
  rw [(Session.takes_handled c.session m).deeds, Deeds.handled_append, Deeds.handled_handled]

/-- The Finished of a reply proves all handshake bytes on the wire. -/
theorem Finishes.message {es : List Event} {r : Reply} (h : o.Finishes es r) :
    Message.ofHandshake r.finished = r.secrets.clientFinished es := by
  rw [Reply.finished, h.client, Secrets.clientFinished]

/-- A reply leads to where the client waits for the key change. -/
theorem Finishes.course {es : List Event} {r : Reply} (h : o.Finishes es r) :
    ∃ src, o.Course (handled es) (.keyChange r.secrets
      (wire es ++ Transcript.contribution (r.secrets.clientFinished es))) src := by
  obtain ⟨flight, key, request, m, src, src', ⟨ms, stage, encoded, hms, hm, hcourse, hanswers⟩,
    hreply⟩ := h.answers
  rw [← Finishes.message h, ← h.server, hms]
  exact ⟨src', hcourse.step (.reply hanswers hm hreply)⟩

theorem Made.clientProves {es : List Event} {r : Reply} (h : r.Made o es)
    (hwire : wire es = r.covered) : r.secrets.ClientProves es := by
  obtain ⟨before, after, heq, hfinishes⟩ := h
  refine ⟨before, after, by rw [heq, Finishes.message hfinishes], ?_⟩
  rw [hwire, Reply.covered, hfinishes.server, Finishes.message hfinishes]

/-- The transcript of a connection has kept up with the wire. -/
theorem Phase.covers (h : c.Phase o) {stage : Stage} (hok : c.stage = .ok stage) :
    stage.Covers c.session.deeds := by
  cases h with
  | early hs hg hholds =>
    rw [hok] at hs
    cases hs
    exact .gathers hg hholds
  | replied hs hreplied htraffic hwire =>
    rw [hok] at hs
    cases hs
    rw [← hwire]
    exact .keyChange (Made.clientProves hreplied.made hwire)
  | keyed hs hreplied htraffic hwire =>
    rw [hok] at hs
    cases hs
    rw [← hwire]
    exact .finished (Made.clientProves hreplied.made hwire)
  | complete hs =>
    rw [hok] at hs
    cases hs
    exact .traffic
  | ended hs =>
    rw [hok] at hs
    cases hs

/-- The message that waits first is made of what was opened. -/
theorem Phase.reads (h : c.Phase o) {stage : Stage} {m : Message} {rest : List Message}
    (hok : c.stage = .ok stage) (hready : c.handshakes.ready = m :: rest) :
    stage.Reads c.session.deeds m := by
  have hpending : c.handshakes.pending = Transcript.contribution m ++
      (rest.flatMap Transcript.contribution ++ c.handshakes.buffer) := by
    rw [HandshakeJoiner.pending, hready, List.flatMap_cons, List.append_assoc]
  have hclear : c.session.ReadsClear c.handshakes.pending →
      opened true c.session.deeds = [] ∧ ∃ rest, opened false c.session.deeds =
        taken c.session.deeds ++ Transcript.contribution m ++ rest :=
    fun hreads => ⟨hreads.keyed, _, by rw [hreads.clear, hpending, ← List.append_assoc]⟩
  cases h with
  | early hs hg hholds hc hreads =>
    rw [hok] at hs
    cases hs
    cases hg <;> exact hclear hreads
  | replied hs hreplied htraffic hwire hreads =>
    rw [hok] at hs
    cases hs
    exact hclear hreads
  | keyed hs hreplied htraffic hwire hreads =>
    rw [hok] at hs
    cases hs
    exact ⟨hreads.clear, _, by rw [hreads.keyed, hpending]⟩
  | complete hs =>
    rw [hok] at hs
    cases hs
    trivial
  | ended hs =>
    rw [hok] at hs
    cases hs

theorem opens_grounds {s s' : Session} {r : Record} (hg : Justified o.Explains s.deeds)
    (hopen : s.Opens r s') : Justified o.Explains s'.deeds := by
  rw [hopen.takes.deeds, Deeds.justified_append, Deeds.justified_singleton]
  exact ⟨hg, trivial⟩

/-- A message that is given to a stage has its grounds. -/
theorem Sound.handles_grounds (h : c.Sound o) (hg : Justified o.Explains c.session.deeds)
    {stage : Stage} {m : Message} {rest : List Message} (hok : c.stage = .ok stage)
    (hready : c.handshakes.ready = m :: rest) :
    Justified o.Explains (c.session.happened (.handled m)).deeds := by
  rw [(Session.takes_handled c.session m).deeds, Deeds.justified_append,
    Deeds.justified_singleton]
  refine ⟨hg, ?_⟩
  rw [List.append_nil]
  refine ⟨fun hm => ?_, stage, _, h.course.onCourse stage hok, h.phase.covers hok,
    h.phase.reads hok hready⟩
  rcases h.waits stage hok with hjoined | ⟨x, hx, htyp, -⟩
  · exact hjoined m (by rw [hready]; exact List.mem_cons_self)
  · rw [hready] at hx
    obtain ⟨rfl, -⟩ := List.cons.inj hx
    exact absurd hm htyp

/-- What follows from a message that is taken in has its grounds. -/
theorem Sound.takes_grounds (h : c.Sound o) (hg : Justified o.Explains c.session.deeds)
    {stage stage' : Stage} {m : Message} {rest : List Message} {act : Stage.Act}
    {src : RandomSource} {s : Session} (hok : c.stage = .ok stage)
    (hready : c.handshakes.ready = m :: rest)
    (ht : stage.Takes o.config c.session.random m act stage' src)
    (hact : act.Performed (c.session.happened (.handled m)) s) :
    Justified o.Explains s.deeds := by
  have htakes := Session.takes_handled c.session m
  have hkept := h.phase.kept.takes htakes
  have hm := h.handles_grounds hg hok hready
  cases ht with
  | @hello _ _ _ _ _ suite _ hbody hcheck hstart =>
    exact grounds_talk (s := { c.session.happened (.handled m) with suite := some suite })
      (hkept.takes (Session.takes_same rfl rfl rfl)) hact hm
  | certificate hbody hcheck => exact grounds_talk hkept hact hm
  | params hbody hcheck => exact grounds_talk hkept hact hm
  | request hbody => exact grounds_talk hkept hact hm
  | keyChange hbody =>
    exact grounds_talk (s := (c.session.happened (.handled m)).startReceiving)
      (hkept.takes (Session.takes_same rfl rfl rfl)) hact hm
  | data hbody => exact grounds_talk hkept hact hm
  | finished hbody hproof =>
    obtain ⟨r, hreplied, hverified⟩ := h.phase.verifies hok hready hbody hproof
    exact grounds_talk (.inr ⟨r, hreplied, fun _ => hverified⟩) hact hm
  | reply hanswers hbody hreply =>
    have hcourse := h.course.onCourse stage hok
    obtain ⟨hholds, -, -⟩ := h.phase.of_gathers hok hanswers.gathers
    have hfinishes := h.phase.finishes_reply hcourse hok hanswers hbody hreply
    refine grounded_reply (h.answers hok hanswers hbody) hreply ?_ ?_ hact hm
    · rw [htakes.deeds, Deeds.wire_append, Deeds.wire_handled]
      exact hholds.add m
    · rw [htakes.deeds]
      exact hfinishes

/-- What a message that is refused leaves behind has its grounds. -/
theorem Sound.refuses_grounds (h : c.Sound o) (hg : Justified o.Explains c.session.deeds)
    {stage : Stage} {m : Message} {rest : List Message} {s : Session} (hok : c.stage = .ok stage)
    (hready : c.handshakes.ready = m :: rest)
    (hfails : stage.Fails o.config m (c.session.happened (.handled m)) s) :
    Justified o.Explains s.deeds := by
  have hm := h.handles_grounds hg hok hready
  rcases hfails with ⟨suite, htalk⟩ |
    ⟨flight, key, request, encoded, ms, src, hanswers, hbody, hbreaks, hsaid⟩
  · have hkept := h.phase.kept.takes (Session.takes_handled c.session m)
    exact grounds_talk (s := { c.session.happened (.handled m) with suite })
      (hkept.takes (Session.takes_same rfl rfl rfl)) htalk hm
  · rw [hsaid.1, Deeds.justified_append]
    exact ⟨hm, grounded_breaks (h.answers hok hanswers hbody) hbreaks⟩

/-- Every move keeps the grounds of all deeds. -/
theorem Sound.grounds_step (h : c.Sound o) (hmove : Moves c c')
    (hg : Justified o.Explains c.session.deeds) : Justified o.Explains c'.session.deeds := by
  cases hmove with
  | talks hconfig hstage hjoin htalk => exact grounds_talk h.phase.kept htalk hg
  | hears hok hconfig hstage hjoin hr hopen htalk =>
    exact grounds_talk (h.phase.kept.takes hopen.takes) htalk (opens_grounds hg hopen)
  | opens hok hready hconfig hstage hopen hjoin => exact opens_grounds hg hopen
  | @takes stage stage' m rest hok hready hm hconfig hstage hjoin hrun =>
    obtain ⟨act, ht, hact⟩ := h.taken hok hrun
    exact h.takes_grounds hg hok hready ht hact
  | declines hok hready hm hconfig hstage hjoin htalk => exact grounds_talk h.phase.kept htalk hg
  | @refuses stage m rest e e' s hok hready hconfig hstage hrun htalk =>
    obtain ⟨-, hfails⟩ := h.refused hok hrun
    obtain ⟨hkept, -⟩ := h.phase.refuses hok hfails
    exact grounds_talk hkept htalk (h.refuses_grounds hg hok hready hfails)
  | fails hok hconfig hstage hhear htalk =>
    obtain ⟨es, htakes, -⟩ := hhear.takes
    apply grounds_talk (h.phase.kept.takes htakes) htalk
    cases hhear with
    | nothing => exact hg
    | unopened => exact hg
    | opened r s' hopen => exact opens_grounds hg hopen

/-- Every deed of every run has its grounds. -/
theorem Starts.grounds {hello : ClientHello} (h : c.Starts o hello) (calls : List Call) :
    Justified o.Explains (c.run calls).session.deeds := by
  have h₀ : Justified o.Explains c.session.deeds := by
    rw [h.deeds, ← HandshakeMessage.logs_singleton]
    have hhello : Grounded o [] (logs [.clientHello hello]) := grounded_logs_singleton trivial
    exact hhello
  exact (h.run h₀ (fun _ _ hs hmove hg => hs.grounds_step hmove hg) calls).2

end Connection

end TlsClient
