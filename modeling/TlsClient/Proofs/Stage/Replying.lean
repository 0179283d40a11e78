import TlsClient.Proofs.Secrets
import TlsClient.Proofs.Session.Sealing
import TlsClient.Proofs.Stage.Steps
import TlsClient.Stage.ClientFlight

/-!
# The client's reply

What the client answers to the server's flight is a `Reply`; `Config.Replies` says which one, with the
secret it draws and the signature it makes.  The answer succeeds exactly if there is a reply
(`answer_ok`, `answer_error`), and puts the messages of the reply on the wire in their order.
-/

namespace TlsClient

open Session (Says)

namespace Transcript

/-- Adds handshake messages one after another. -/
def addAll (t : Transcript) (ms : List HandshakeMessage) : Transcript :=
  ms.foldl (fun t m => t.add (.ofHandshake m)) t

@[simp] theorem addAll_nil (t : Transcript) : t.addAll [] = t := rfl

theorem addAll_concat (t : Transcript) (ms : List HandshakeMessage) (m : HandshakeMessage) :
    t.addAll (ms ++ [m]) = (t.addAll ms).add (.ofHandshake m) := by
  simp [addAll]

/-- The bytes that handshake messages add one after another. -/
def contributions (ms : List HandshakeMessage) : Bytes :=
  ms.flatMap fun m => contribution (.ofHandshake m)

@[simp] theorem contributions_append (ms ns : List HandshakeMessage) :
    contributions (ms ++ ns) = contributions ms ++ contributions ns := List.flatMap_append

/-- A transcript that is complete: all three hold the same bytes. -/
def Holds (t : Transcript) (bs : Bytes) : Prop :=
  t.verify = some bs ∧ t.client = bs ∧ t.server = bs

theorem Holds.add {t : Transcript} {bs : Bytes} (h : t.Holds bs) (m : Message) :
    (t.add m).Holds (bs ++ contribution m) := by
  obtain ⟨hv, hc, hs⟩ := h
  simp [Holds, Transcript.add, hv, hc, hs]

/-- A part of a transcript that takes in each message takes in all of them. -/
theorem addAll_part {part : Transcript → Bytes}
    (hadd : ∀ t m, part (Transcript.add t m) = part t ++ contribution m) (t : Transcript)
    (ms : List HandshakeMessage) : part (t.addAll ms) = part t ++ contributions ms := by
  induction ms generalizing t with
  | nil => simp [contributions]
  | cons m ms ih =>
    show part ((t.add (.ofHandshake m)).addAll ms) = _
    rw [ih, hadd, List.append_assoc]
    rfl

theorem Holds.addAll {t : Transcript} {bs : Bytes} (h : t.Holds bs) (ms : List HandshakeMessage) :
    (t.addAll ms).Holds (bs ++ contributions ms) := by
  induction ms generalizing t bs with
  | nil => simpa [contributions] using h
  | cons m ms ih => simpa [contributions, Transcript.addAll] using ih (h.add _)

end Transcript

/-- What sending handshake messages without protection leaves in the history. -/
def HandshakeMessage.logs (ms : List HandshakeMessage) : List Event :=
  ms.flatMap fun m => (Message.ofHandshake m).log

open HandshakeMessage (logs)

namespace HandshakeMessage

@[simp] theorem logs_append (ms ns : List HandshakeMessage) : logs (ms ++ ns) = logs ms ++ logs ns :=
  List.flatMap_append

@[simp] theorem logs_singleton (m : HandshakeMessage) : logs [m] = (Message.ofHandshake m).log :=
  List.flatMap_singleton ..

theorem wire_logs (ms : List HandshakeMessage) :
    Deeds.wire (logs ms) = Transcript.contributions ms := by
  induction ms with
  | nil => rfl
  | cons m ms ih =>
    have h : Deeds.wire ((Message.ofHandshake m).log ++ logs ms) = _ := Deeds.wire_append _ _
    rw [Message.wire_log, ih] at h
    exact h

theorem handled_logs (ms : List HandshakeMessage) : Deeds.handled (logs ms) = [] := by
  induction ms with
  | nil => rfl
  | cons m ms ih =>
    have h : Deeds.handled ((Message.ofHandshake m).log ++ logs ms) = _ := Deeds.handled_append _ _
    rw [Message.handled_log, ih] at h
    exact h

theorem taken_logs (ms : List HandshakeMessage) : Deeds.taken (logs ms) = [] := by
  rw [Deeds.taken, handled_logs, List.flatMap_nil]

theorem opened_logs (keyed : Bool) (ms : List HandshakeMessage) : Deeds.opened keyed (logs ms) = [] := by
  induction ms with
  | nil => rfl
  | cons m ms ih =>
    have h : Deeds.opened keyed ((Message.ofHandshake m).log ++ logs ms) = _ :=
      Deeds.opened_append _ _ _
    rw [Message.opened_log, ih] at h
    exact h

/-- Sending handshake messages leaves each message and its records. -/
theorem mem_logs {ms : List HandshakeMessage} {e : Event} (h : e ∈ logs ms) :
    ∃ m ∈ ms, e = .sent (.ofHandshake m) ∨ ∃ r : Record, r.typ = .handshake ∧ e = .queued r r := by
  obtain ⟨m, hm, he⟩ := List.mem_flatMap.mp h
  rcases List.mem_cons.mp he with he | he
  · exact ⟨m, hm, .inl he⟩
  · obtain ⟨r, hr, rfl⟩ := List.mem_map.mp he
    exact ⟨m, hm, .inr ⟨r, (Record.of_mem_fragments hr).1, rfl⟩⟩

/-- Unprotected handshake messages leave records as they are, of their own type. -/
theorem records_logs {ms : List HandshakeMessage} {x : Record × Record}
    (h : x ∈ Deeds.records (logs ms)) : x.2 = x.1 ∧ x.1.typ = .handshake := by
  obtain ⟨e, he, hx⟩ := List.mem_filterMap.mp h
  rcases mem_logs he with ⟨m, -, rfl | ⟨r, hr, rfl⟩⟩
  · cases hx
  · cases hx
    exact ⟨rfl, hr⟩

end HandshakeMessage

/-- What is left to sign after some messages is all that was on the wire. -/
theorem Transcript.Holds.verify_addAll {t : Transcript} {es : List Event} (h : t.Holds (Deeds.wire es))
    (ms : List HandshakeMessage) : (t.addAll ms).verify = some (Deeds.wire (es ++ logs ms)) := by
  rw [(h.addAll ms).1, Deeds.wire_append, HandshakeMessage.wire_logs]

/-! ## Replies -/

/-- The client's answer to the server's flight. -/
structure Reply where
  /-- The chain that is sent if the server asks for one. -/
  certificate : Option (List Certificate)
  agreement : Agreement
  signature : Option Bytes
  secrets : Secrets
  sending : Protection
  receiving : Protection
  /-- The handshake before the client's Finished. -/
  transcript : Transcript

namespace Reply

/-- The certificate message, if there is one. -/
def presented (chain : Option (List Certificate)) : List HandshakeMessage :=
  chain.toList.map .certificate

/-- The messages up to the key exchange. -/
def opening (r : Reply) : List HandshakeMessage :=
  presented r.certificate ++ [.clientKeyExchange r.agreement.contribution]

/-- The proof that the client owns the certificate that it sent. -/
def proof (r : Reply) : List HandshakeMessage := r.signature.toList.map .certificateVerify

def finished (r : Reply) : HandshakeMessage :=
  .finished (r.secrets.clientVerify (Transcript.digest r.transcript.client))

/-- The first record that is protected. -/
def finishedRecord (r : Reply) : Record := (Message.ofHandshake r.finished).toRecord

/-- Where the client waits after the reply. -/
def stage (r : Reply) : Stage :=
  .keyChange r.secrets
    (r.transcript.server ++ Transcript.contribution (Message.ofHandshake r.finished))

theorem length_finishedRecord (r : Reply) : r.finishedRecord.payload.length = 16 := by
  have h : (Transcript.digest r.transcript.client |> r.secrets.clientVerify).length = 12 :=
    Secrets.length_clientVerify ..
  have henc : r.finishedRecord.payload = Registry.encode HandshakeType.finished
      ++ Encoder.vector 3 (r.secrets.clientVerify (Transcript.digest r.transcript.client)) := rfl
  rw [henc, List.length_append, Encoder.vector, List.length_append, Bytes.length_ofNat, h]
  rfl

/-- What a reply does to a session that has not protected anything so far. -/
structure Answered (r : Reply) (s s' : Session) : Prop where
  sealing : ∃ wire q, r.sending.protect 0 r.finishedRecord = (.ok wire, q) ∧
    s'.layer = { sending := ⟨some q, 1, .active⟩, receiving := .prepare r.receiving } ∧
    s'.deeds = s.deeds ++ (logs (r.opening ++ r.proof) ++ Message.changeCipherSpec.log ++
      [.sent (Message.ofHandshake r.finished), .queued r.finishedRecord wire])
  suite : s'.suite = s.suite
  traffic : s'.traffic = s.traffic

end Reply

namespace Config

/-- The client's certificate, if it has one of a kind that the server asks for. -/
def authFor (c : Config) (request : Option CertificateRequest) : Option ClientAuth :=
  match request, c.auth with
  | some request, some auth =>
    if request.types.contains auth.key.algorithm.clientCertificate then some auth else none
  | _, _ => none

/-- The chain that answers a request. -/
def chainFor (c : Config) (request : Option CertificateRequest) : Option (List Certificate) :=
  request.map fun _ => ((c.authFor request).map ClientAuth.chain).getD []

/-- The signature of what is to be proved, if there is a certificate to prove it with. -/
def prove (auth : Option ClientAuth) (signed : Option Bytes) : Except TlsError (Option Bytes) :=
  match auth, signed with
  | some auth, some signed => some <$> auth.key.sign signed
  | _, _ => .ok none

/-- Whether a reply is the client's answer, and what it leaves of the random bytes. -/
structure Replies (c : Config) (flight : Flight) (key : Option PublicKey)
    (request : Option CertificateRequest) (m : Message) (src : RandomSource) (r : Reply)
    (src' : RandomSource) : Prop where
  certificate : r.certificate = c.chainFor request
  agreement : (flight.exchange.agree key).run src = (.ok r.agreement, src')
  signature : prove (c.authFor request) ((flight.transcript.add m).addAll r.opening).verify
    = .ok r.signature
  secrets : r.secrets = .ofPremaster r.agreement.premaster flight.randoms flight.suite
  sending : r.secrets.sending = .ok r.sending
  receiving : r.secrets.receiving = .ok r.receiving
  transcript : r.transcript =
    { (flight.transcript.add m).addAll r.opening with verify := none }.addAll r.proof

/-- What the client has sent of a reply that it could not complete. -/
inductive Breaks (c : Config) (flight : Flight) (key : Option PublicKey)
    (request : Option CertificateRequest) (src : RandomSource) : List HandshakeMessage → Prop
  | disagree : Breaks c flight key request src (Reply.presented (c.chainFor request))
  | unsigned (agreement : Agreement) (src' : RandomSource)
    (h : (flight.exchange.agree key).run src = (.ok agreement, src')) :
    Breaks c flight key request src
      (Reply.presented (c.chainFor request) ++ [.clientKeyExchange agreement.contribution])

/-- What is signed is signed with the client's key, and nothing if there is none. -/
theorem of_prove_ok {auth : Option ClientAuth} {signed signature : Option Bytes}
    (h : prove auth signed = .ok signature) :
    (auth = none ∨ signed = none) ∧ signature = none ∨
      ∃ a bs made, auth = some a ∧ signed = some bs ∧ a.key.sign bs = .ok made ∧
        signature = some made := by
  rcases auth with _ | a
  · cases h
    exact .inl ⟨.inl rfl, rfl⟩
  · rcases signed with _ | bs
    · cases h
      exact .inl ⟨.inr rfl, rfl⟩
    · unfold prove at h
      dsimp only at h
      rcases hsign : a.key.sign bs with e | made
      · rw [hsign] at h
        cases h
      · rw [hsign] at h
        cases h
        exact .inr ⟨a, bs, made, rfl, rfl, hsign, rfl⟩

/-- A proof can only fail because the client's key does not sign. -/
theorem of_prove_error {auth : Option ClientAuth} {signed : Option Bytes} {e : TlsError}
    (h : prove auth signed = .error e) :
    ∃ a bs, auth = some a ∧ signed = some bs ∧ a.key.sign bs = .error e := by
  rcases auth with _ | a
  · cases h
  · rcases signed with _ | bs
    · cases h
    · unfold prove at h
      dsimp only at h
      rcases hsign : a.key.sign bs with e' | made
      · rw [hsign] at h
        cases h
        exact ⟨a, bs, rfl, rfl, hsign⟩
      · rw [hsign] at h
        cases h

/-- With a secret and a signature there is a reply: nothing else can go wrong. -/
theorem exists_replies {c : Config} {flight : Flight} {key : Option PublicKey}
    {request : Option CertificateRequest} {m : Message} {src src' : RandomSource}
    {agreement : Agreement} {signature : Option Bytes}
    (hagree : (flight.exchange.agree key).run src = (.ok agreement, src'))
    (hprove : prove (c.authFor request) ((flight.transcript.add m).addAll
      (Reply.presented (c.chainFor request) ++
        [.clientKeyExchange agreement.contribution])).verify = .ok signature) :
    ∃ r, c.Replies flight key request m src r src' := by
  obtain ⟨sending, hsend⟩ :=
    (Secrets.ofPremaster agreement.premaster flight.randoms flight.suite).sending_ok
  obtain ⟨receiving, hreceive⟩ :=
    (Secrets.ofPremaster agreement.premaster flight.randoms flight.suite).receiving_ok
  let r : Reply :=
    { certificate := c.chainFor request, agreement, signature
      secrets := .ofPremaster agreement.premaster flight.randoms flight.suite
      sending, receiving
      transcript := { (flight.transcript.add m).addAll (Reply.presented (c.chainFor request) ++
        [HandshakeMessage.clientKeyExchange agreement.contribution]) with
          verify := none }.addAll (signature.toList.map .certificateVerify) }
  exact ⟨r, rfl, hagree, hprove, rfl, hsend, hreceive, rfl⟩

end Config

/-! ## Sending the reply -/

namespace Stage

variable {c : Config} {flight : Flight} {key : Option PublicKey}
  {request : Option CertificateRequest} {m : Message} {s : Session}

theorem emit_run (h : HandshakeMessage) (t : Transcript) (s : Session) :
    (emit h t).run s = (.ok (t.add (.ofHandshake h)), s.send (.ofHandshake h)) := rfl

theorem says_emit (hs : s.Idle) (h : HandshakeMessage) :
    Says (logs [h]) s (s.send (.ofHandshake h)) := by
  rw [HandshakeMessage.logs_singleton]
  exact Session.send_idle hs _

theorem chooseAuth_run (c : Config) (request : CertificateRequest) (s : Session) :
    ∃ s', (chooseAuth c request).run s = (.ok (c.authFor (some request)), s') ∧ Says [] s s' := by
  unfold chooseAuth Config.authFor
  cases c.auth with
  | none => exact ⟨s, rfl, .refl s⟩
  | some auth =>
    dsimp only
    split
    · exact ⟨s, rfl, .refl s⟩
    · exact ⟨_, rfl, .note s _⟩

theorem sendCertificate_run (hs : s.Idle) (c : Config) (request : Option CertificateRequest)
    (t : Transcript) :
    ∃ s', (sendCertificate c request t).run s
        = (.ok (c.authFor request, t.addAll (Reply.presented (c.chainFor request))), s') ∧
      Says (logs (Reply.presented (c.chainFor request))) s s' := by
  cases request with
  | none => exact ⟨s, rfl, .refl s⟩
  | some request =>
    obtain ⟨s₁, hrun, hsaid⟩ := chooseAuth_run c request s
    have hidle : ∀ n, (s₁.note n).Idle := fun n => by
      rw [Session.Idle, (Says.note s₁ n).layer, hsaid.layer]
      exact hs
    exact ⟨_, Step.run_bind_of_ok hrun, hsaid.trans ((Says.note s₁ _).trans (says_emit (hidle _) _))⟩

theorem sendVerify_ok (hs : s.Idle) {auth : Option ClientAuth} {t : Transcript}
    {signature : Option Bytes} (h : Config.prove auth t.verify = .ok signature) :
    ∃ s', (sendVerify auth t).run s
        = (.ok ({ t with verify := none }.addAll
            (signature.toList.map .certificateVerify)), s') ∧
      Says (logs (signature.toList.map .certificateVerify)) s s' := by
  unfold sendVerify Transcript.takeVerify
  rcases Config.of_prove_ok h with ⟨hnone, rfl⟩ | ⟨a, bs, made, rfl, hv, hsign, rfl⟩
  · rcases hnone with rfl | hv
    · exact ⟨s, rfl, .refl s⟩
    · rw [hv]
      cases auth <;> exact ⟨s, rfl, .refl s⟩
  · rw [hv]
    dsimp only
    rw [hsign]
    have hsaid := (says_emit hs (.certificateVerify made)).trans
      (.note _ (.progress .certificateVerifySent))
    rw [List.append_nil] at hsaid
    exact ⟨_, rfl, hsaid⟩

theorem sendVerify_error {auth : Option ClientAuth} {t : Transcript} {e : TlsError}
    (h : Config.prove auth t.verify = .error e) : (sendVerify auth t).run s = (.error e, s) := by
  obtain ⟨a, bs, rfl, hv, hsign⟩ := Config.of_prove_error h
  unfold sendVerify Transcript.takeVerify
  rw [hv]
  dsimp only
  rw [hsign]
  rfl

theorem reportSecrets_run (c : Config) (secrets : Secrets) (s : Session) :
    ∃ s', (reportSecrets c secrets).run s = (.ok (), s') ∧ Says [] s s' := by
  unfold reportSecrets
  split
  · refine ⟨_, rfl, ?_, rfl⟩
    simp [Session.deeds_happened, Event.isDeed]
  · exact ⟨s, rfl, .refl s⟩

/-- Changing the keys: they are put in place, the change is signalled, and then they are used. -/
theorem changeKeys_eq (s : Session) {secrets : Secrets} {sending receiving : Protection}
    (hsend : secrets.sending = .ok sending) (hreceive : secrets.receiving = .ok receiving) :
    (changeKeys secrets).run s = (.ok (),
      ((s.prepareKeys sending receiving).send .changeCipherSpec).startSending.note
        (.progress .clientChangeCipherSpecSent)) := by
  unfold changeKeys
  rw [hsend, hreceive]
  rfl

/-- The keys can always be put in place, and the signal is the last record without them. -/
theorem changeKeys_run (s : Session) {secrets : Secrets} {sending receiving : Protection}
    (hsend : secrets.sending = .ok sending) (hreceive : secrets.receiving = .ok receiving) :
    ∃ s', (changeKeys secrets).run s = (.ok (), s') ∧
      s'.deeds = s.deeds ++ Message.changeCipherSpec.log ∧
      s'.layer = { sending := ⟨some sending, 0, .active⟩, receiving := .prepare receiving } ∧
      { s' with outgoing := s.outgoing, history := s.history, layer := s.layer } = s := by
  have hidle : (s.prepareKeys sending receiving).Idle := ⟨rfl, rfl⟩
  have hsaid := Session.send_idle hidle .changeCipherSpec
  set s₁ := (s.prepareKeys sending receiving).send .changeCipherSpec with hs₁
  refine ⟨s₁.startSending.note (.progress .clientChangeCipherSpecSent), changeKeys_eq s hsend hreceive,
    ?_, ?_, ?_⟩
  · rw [Session.deeds_note]
    exact hsaid.1
  · have hl : s₁.layer = (s.prepareKeys sending receiving).layer := hsaid.layer
    show { s₁.layer with sending := s₁.layer.sending.start } = _
    rw [hl]
    rfl
  · have hrest := congrArg (fun x : Session =>
      { x with layer := s.layer, history := s.history, outgoing := s.outgoing }) hsaid.2
    exact hrest

/-- What signalling the key change always comes to. -/
theorem changeKeys_always (secrets : Secrets) (s : Session) :
    ∃ s' sending receiving, (changeKeys secrets).run s = (.ok (), s') ∧
      s'.deeds = s.deeds ++ Message.changeCipherSpec.log ∧
      s'.layer = { sending := ⟨some sending, 0, .active⟩, receiving := .prepare receiving } ∧
      { s' with outgoing := s.outgoing, history := s.history, layer := s.layer } = s := by
  obtain ⟨sending, hsend⟩ := secrets.sending_ok
  obtain ⟨receiving, hreceive⟩ := secrets.receiving_ok
  obtain ⟨s', hrun⟩ := changeKeys_run s hsend hreceive
  exact ⟨s', sending, receiving, hrun⟩

/-- The client's Finished is the first record that is sealed. -/
theorem sendFinished_run (r : Reply) {receiving : Direction}
    (hl : s.layer = { sending := ⟨some r.sending, 0, .active⟩, receiving }) :
    ∃ s' wire q, (sendFinished r.secrets r.transcript).run s
        = (.ok (r.transcript.server ++ Transcript.contribution (Message.ofHandshake r.finished)), s') ∧
      r.sending.protect 0 r.finishedRecord = (.ok wire, q) ∧
      s'.deeds = s.deeds ++ [.sent (Message.ofHandshake r.finished), .queued r.finishedRecord wire] ∧
      s'.layer = { sending := ⟨some q, 1, .active⟩, receiving } ∧
      { s' with outgoing := s.outgoing, history := s.history, layer := s.layer } = s := by
  have hshort : r.finishedRecord.payload.length ≤ Record.maxFragment := by
    rw [r.length_finishedRecord]
    decide
  obtain ⟨wire, q, hw⟩ := r.sending.protect_ok 0 hshort
  have hprotect : s.layer.sending.protect r.finishedRecord = (.ok wire, ⟨some q, 1, .active⟩) := by
    rw [hl]
    exact Direction.protect_active (by decide) hw
  have hclose : s.layer.wantsClose = false := by
    rw [RecordLayer.wantsClose, hl]
    rfl
  have hlimit : s.layer.exhausted = false := by
    rw [RecordLayer.exhausted, hl]
    rfl
  set s₀ := s.happened (.sent (Message.ofHandshake r.finished)) with hs₀
  have hsend : s.send (Message.ofHandshake r.finished)
      = { s₀ with layer := { s.layer with sending := ⟨some q, 1, .active⟩ } }.enqueue
        r.finishedRecord wire := by
    show r.finishedRecord.fragments.foldl Session.sendFragment s₀ = _
    rw [Record.fragments_of_length_le hshort]
    have hc : s₀.layer.wantsClose = false := hclose
    have hx : s₀.layer.exhausted = false := hlimit
    have hp : s₀.layer.sending.protect r.finishedRecord = _ := hprotect
    simp only [List.foldl_cons, List.foldl_nil, Session.sendFragment, Session.sendRecord, hc, hx,
      RecordLayer.protect, hp, Bool.false_eq_true, if_false]
    rfl
  refine ⟨_, wire, q, rfl, hw, ?_, ?_, ?_⟩
  · show (s.send (Message.ofHandshake r.finished)).deeds = _
    rw [hsend, Session.deeds_enqueue]
    show s₀.deeds ++ _ = _
    rw [hs₀, Session.deeds_happened, List.append_assoc]
    rfl
  · show (s.send (Message.ofHandshake r.finished)).layer = _
    rw [hsend]
    exact congrArg (fun l => { l with sending := ⟨some q, 1, .active⟩ }) hl
  · show { s.send (Message.ofHandshake r.finished) with
      outgoing := s.outgoing, history := s.history, layer := s.layer } = s
    rw [hsend]
    rfl

/-- The part of the answer that nothing protects, up to the signature. -/
theorem answer_run (hs : s.Idle) {agreement : Agreement} {src : RandomSource}
    (h : (flight.exchange.agree key).run s.random = (.ok agreement, src)) :
    ∃ s', Says (logs (Reply.presented (c.chainFor request) ++
        [.clientKeyExchange agreement.contribution])) { s with random := src } s' ∧
      (answer c flight key request m).run s = (do
        let transcript ← sendVerify (c.authFor request) ((flight.transcript.add m).addAll
          (Reply.presented (c.chainFor request) ++ [.clientKeyExchange agreement.contribution]))
        let secrets := Secrets.ofPremaster agreement.premaster flight.randoms flight.suite
        reportSecrets c secrets
        changeKeys secrets
        let transcript ← sendFinished secrets transcript
        Step.progress .clientFinishedSent
        return Stage.keyChange secrets transcript : Step Stage).run s' := by
  have hsaid₀ : Says [] s (s.note (.progress .serverHelloDoneReceived)) := .note s _
  have hidle₀ : (s.note (.progress .serverHelloDoneReceived)).Idle := hs
  obtain ⟨s₁, hrun₁, hsaid₁⟩ := sendCertificate_run hidle₀ c request (flight.transcript.add m)
  have hsaid := hsaid₀.trans hsaid₁
  have hrandom : s₁.random = s.random := congrArg Session.Frame.random hsaid.frame
  have hdraw : (Step.draw (flight.exchange.agree key)).run s₁
      = (.ok agreement, { s₁ with random := src }) := by
    rw [Step.run_draw, hrandom, h]
  have hidle₁ : ({ s₁ with random := src } : Session).Idle := by
    show s₁.Idle
    rw [Session.Idle, hsaid.layer]
    exact hs
  have hsaid' : Says (logs (Reply.presented (c.chainFor request))) { s with random := src }
      { s₁ with random := src } :=
    ⟨hsaid.1, congrArg (fun x : Session => { x with random := src }) hsaid.2⟩
  refine ⟨({ s₁ with random := src }.send
    (.ofHandshake (.clientKeyExchange agreement.contribution))).note
      (.progress .clientKeyExchangeSent), ?_, ?_⟩
  · have hlast := (hsaid'.trans (says_emit hidle₁ (.clientKeyExchange agreement.contribution))).trans
      (.note _ (.progress .clientKeyExchangeSent))
    rwa [List.append_nil, ← HandshakeMessage.logs_append] at hlast
  · rw [Transcript.addAll_concat]
    unfold answer
    rw [Step.run_bind_progress, Step.run_bind_of_ok hrun₁]
    dsimp only
    rw [Step.run_bind_of_ok hdraw, Step.run_bind_of_ok (emit_run _ _ _), Step.run_bind_progress]

/-- With a reply the answer succeeds and sends it. -/
theorem answer_ok {r : Reply} {src : RandomSource} (hs : s.Idle)
    (h : c.Replies flight key request m s.random r src) :
    ∃ s', (answer c flight key request m).run s = (.ok r.stage, s') ∧ s'.random = src ∧
      r.Answered s s' := by
  obtain ⟨s₁, hsaid₁, hrun⟩ := @answer_run c flight key request m s hs _ _ h.agreement
  have hopening : r.opening = Reply.presented (c.chainFor request) ++
      [.clientKeyExchange r.agreement.contribution] := by
    rw [Reply.opening, h.certificate]
  rw [← hopening] at hsaid₁ hrun
  have hidle₁ : s₁.Idle := by rw [Session.Idle, hsaid₁.layer]; exact hs
  obtain ⟨s₂, hrun₂, hsaid₂⟩ := sendVerify_ok hidle₁ h.signature
  obtain ⟨s₃, hrun₃, hsaid₃⟩ := reportSecrets_run c r.secrets s₂
  have hsaid := hsaid₁.trans (hsaid₂.trans hsaid₃)
  obtain ⟨s₄, hrun₄, hdeeds₄, hlayer₄, hrest₄⟩ := changeKeys_run s₃ h.sending h.receiving
  obtain ⟨s₅, wire, q, hrun₅, hw, hdeeds₅, hlayer₅, hrest₅⟩ := sendFinished_run r hlayer₄
  have hrest : s₅.frame = { s₃.frame with receiving := s₅.layer.receiving } := by
    have h₄ := congrArg Session.frame hrest₄
    have h₅ := congrArg Session.frame hrest₅
    simp only [Session.frame, Session.Frame.mk.injEq] at h₄ h₅ ⊢
    exact ⟨h₅.1.trans h₄.1, trivial, h₅.2.2.1.trans h₄.2.2.1, h₅.2.2.2.trans h₄.2.2.2⟩
  rw [hsaid.frame] at hrest
  refine ⟨s₅.note (.progress .clientFinishedSent), ?_, ?_, ?_, ?_, ?_⟩
  · rw [hrun, Step.run_bind_of_ok hrun₂, ← h.secrets, Step.run_bind_of_ok hrun₃,
      Step.run_bind_of_ok hrun₄]
    have htranscript : ({ (flight.transcript.add m).addAll r.opening with verify := none }.addAll
        (r.signature.toList.map .certificateVerify)) = r.transcript := h.transcript.symm
    rw [htranscript, Step.run_bind_of_ok hrun₅, Step.run_bind_progress]
    rfl
  · exact congrArg Session.Frame.random hrest
  · refine ⟨wire, q, hw, hlayer₅, ?_⟩
    rw [Session.deeds_note, hdeeds₅, hdeeds₄, hsaid.1, HandshakeMessage.logs_append]
    simp only [List.append_assoc, List.append_nil]
    rfl
  · exact congrArg Session.Frame.suite hrest
  · exact congrArg Session.Frame.traffic hrest

/-- Without a reply the answer fails, after what could be sent of one. -/
theorem answer_error (hs : s.Idle) (h : ∀ r src, ¬ c.Replies flight key request m s.random r src) :
    ∃ e s' ms src, (answer c flight key request m).run s = (.error e, s') ∧
      c.Breaks flight key request s.random ms ∧ Says (logs ms) { s with random := src } s' := by
  rcases hagree : (flight.exchange.agree key).run s.random with ⟨e | agreement, src⟩
  · have hidle₀ : (s.note (.progress .serverHelloDoneReceived)).Idle := hs
    obtain ⟨s₁, hrun₁, hsaid₁⟩ := sendCertificate_run hidle₀ c request (flight.transcript.add m)
    have hsaid := (Says.note s (.progress .serverHelloDoneReceived)).trans hsaid₁
    have hrandom : s₁.random = s.random := congrArg Session.Frame.random hsaid.frame
    have hdraw : (Step.draw (flight.exchange.agree key)).run s₁
        = (.error e, { s₁ with random := src }) := by
      rw [Step.run_draw, hrandom, hagree]
    refine ⟨e, { s₁ with random := src }, _, src, ?_, .disagree, hsaid.1,
      congrArg (fun x : Session => { x with random := src }) hsaid.2⟩
    unfold answer
    rw [Step.run_bind_progress, Step.run_bind_of_ok hrun₁]
    dsimp only
    rw [Step.run_bind_of_error hdraw]
  · obtain ⟨s₁, hsaid₁, hrun⟩ := @answer_run c flight key request m s hs _ _ hagree
    rcases hprove : Config.prove (c.authFor request) ((flight.transcript.add m).addAll
        (Reply.presented (c.chainFor request) ++
          [.clientKeyExchange agreement.contribution])).verify with e | signature
    · refine ⟨e, s₁, _, src, ?_, .unsigned agreement src hagree, hsaid₁⟩
      rw [hrun, Step.run_bind_of_error (sendVerify_error hprove)]
    · obtain ⟨r, hreply⟩ := Config.exists_replies hagree hprove
      exact absurd hreply (h r src)

end Stage

end TlsClient
