import Mathlib.Data.List.Induction
import TlsClient.Proofs.Stage.Replying
import TlsClient.Stage.Handle

/-!
# The course of a handshake

`Stage.Takes` lists the ways in which a message takes a handshake from one stage to the next, each with
the checks that it passes and the act that follows from it.  Handling a message does what it says and
nothing else: it goes on exactly if there is such a way, and otherwise refuses the message
(`handle_settles`).  A `Course` is a sequence of messages that lead on one after another.
-/

namespace TlsClient

open HandshakeMessage (logs)
open Session (Says Talks)

/-- Only plain SRP goes without a certificate of the server's. -/
theorem KeyExchangeMethod.eq_srp {method : KeyExchangeMethod}
    (h : ¬ method.expectsCertificate = true) : method = .srp := by
  simpa [expectsCertificate] using h

namespace Stage

/-- What follows for a session from a message that is taken in, besides reports and talk. -/
inductive Act where
  | nothing
  | choose (suite : Suite)
  | reply (r : Reply)
  | startReceiving
  | startTraffic

/-- A session that comes from another by an act. -/
def Act.Performed : Act → Session → Session → Prop
  | nothing, s, s' => Talks s s'
  | choose suite, s, s' => Talks { s with suite := some suite } s'
  | reply r, s, s' => r.Answered s s'
  | startReceiving, s, s' => Talks s.startReceiving s'
  | startTraffic, s, s' => Talks { s with traffic := true } s'

/-- A stage at which the client replies if the server is done. -/
inductive Answers : Stage → Flight → Option PublicKey → Option CertificateRequest → Prop
  | unasked (flight : Flight) (key : Option PublicKey) :
    Answers (.requestOrDone flight key) flight key none
  | asked (flight : Flight) (key : Option PublicKey) (request : CertificateRequest) :
    Answers (.done flight key request) flight key (some request)

/-- The ways in which a message is taken in. -/
inductive Takes (c : Config) (src : RandomSource) (m : Message) :
    Stage → Act → Stage → RandomSource → Prop
  | hello {random transcript offered hello encoded suite exchange}
    (hm : m.body = .handshake (.serverHello hello) encoded)
    (hcheck : c.checkHello offered hello = .ok suite)
    (hstart : KeyExchange.start suite.keyExchange c.srp = .ok exchange) :
    Takes c src m (.serverHello random transcript offered) (.choose suite)
      (afterHello
        { randoms := ⟨random, hello.random⟩, suite, transcript := transcript.add m, exchange }) src
  | certificate {flight chain encoded key} (hm : m.body = .handshake (.certificate chain) encoded)
    (hcheck : c.checkChain flight.suite.keyExchange chain = .ok key) :
    Takes c src m (.certificate flight) .nothing
      (if flight.suite.keyExchange.expectsServerParams then .serverParams (flight.add m) (some key)
        else .requestOrDone (flight.add m) (some key)) src
  | params {flight key body encoded exchange}
    (hm : m.body = .handshake (.serverKeyExchange body) encoded)
    (hcheck : flight.checkParams key body = .ok exchange) :
    Takes c src m (.serverParams flight key) .nothing
      (.requestOrDone { flight.add m with exchange } key) src
  | request {flight key request encoded}
    (hm : m.body = .handshake (.certificateRequest request) encoded) :
    Takes c src m (.requestOrDone flight key) .nothing (.done (flight.add m) key request) src
  | reply {stage flight key request encoded r src'} (hstage : Answers stage flight key request)
    (hm : m.body = .handshake .serverHelloDone encoded)
    (hreply : c.Replies flight key request m src r src') :
    Takes c src m stage (.reply r) r.stage src'
  | keyChange {secrets transcript} (hm : m.body = .changeCipherSpec) :
    Takes c src m (.keyChange secrets transcript) .startReceiving (.finished secrets transcript) src
  | finished {secrets transcript proof encoded} (hm : m.body = .handshake (.finished proof) encoded)
    (hcheck : secrets.serverVerify (Transcript.digest transcript) = proof) :
    Takes c src m (.finished secrets transcript) .startTraffic .traffic src
  | data {bytes} (hm : m.body = .applicationData bytes) :
    Takes c src m .traffic .nothing .traffic src

/-- What a message that is not taken in leaves behind.  Most are refused; the reply to the end of the
server's flight may break off. -/
def Fails (c : Config) (stage : Stage) (m : Message) (s s' : Session) : Prop :=
  (∃ suite, Talks { s with suite } s') ∨
    ∃ flight key request encoded ms src, Answers stage flight key request ∧
      m.body = .handshake .serverHelloDone encoded ∧
      c.Breaks flight key request s.random ms ∧ Says (logs ms) { s with random := src } s'

/-- A step that takes a message in where there is a way, and fails where there is none. -/
def Settles (c : Config) (stage : Stage) (m : Message) (s : Session) (x : Step Stage) : Prop :=
  (∃ act stage' s', Takes c s.random m stage act stage' s'.random ∧ x.run s = (.ok stage', s') ∧
    act.Performed s s') ∨
  (∀ act stage' src, ¬ Takes c s.random m stage act stage' src) ∧
    ∃ e s', x.run s = (.error e, s') ∧ Fails c stage m s s'

variable {c : Config} {stage stage' : Stage} {m : Message} {s s' : Session} {x : Step Stage}

theorem settles_ok {act : Act} {src : RandomSource} (h : Takes c s.random m stage act stage' src)
    (hx : x.run s = (.ok stage', s')) (hr : s'.random = src) (hs : act.Performed s s') :
    Settles c stage m s x :=
  .inl ⟨act, stage', s', hr ▸ h, hx, hs⟩

theorem settles_refuse (h : ∀ act stage' src, ¬ Takes c s.random m stage act stage' src)
    (hx : x.Refuses s) : Settles c stage m s x := by
  obtain ⟨e, s', hrun, htalk⟩ := hx
  exact .inr ⟨h, e, s', hrun, .inl ⟨s.suite, htalk⟩⟩

theorem takeHello_settles (c : Config) (random : HelloRandom) (t : Transcript)
    (offered : List ExtensionType) (m : Message) (s : Session) :
    Settles c (.serverHello random t offered) m s (takeHello c random t offered m) := by
  unfold takeHello
  split
  · next hello encoded hm =>
    rcases hcheck : c.checkHello offered hello with r | suite
    · refine settles_refuse ?_ (Step.refuses_check _ s)
      intro act stage' src ht
      cases ht with
      | hello hm' hcheck' =>
        rw [hm] at hm'
        cases hm'
        rw [hcheck] at hcheck'
        cases hcheck'
      | reply hstage => cases hstage
    · rcases hstart : KeyExchange.start suite.keyExchange c.srp with e | exchange
      · refine .inr ⟨?_, .config e, { s.note (.suiteChosen suite) with suite := some suite }, ?_,
          .inl ⟨some suite, .single (.note { s with suite := some suite } (.suiteChosen suite))⟩⟩
        · intro act stage' src ht
          cases ht with
          | hello hm' hcheck' hstart' =>
            rw [hm] at hm'
            cases hm'
            rw [hcheck] at hcheck'
            cases hcheck'
            rw [hstart] at hstart'
            cases hstart'
          | reply hstage => cases hstage
        · rw [Step.run_bind_check, Step.run_bind_note, Step.run_bind_modify, hstart]
          rfl
      · have htalk : Talks { s with suite := some suite }
            ({ s.note (.suiteChosen suite) with suite := some suite }.note
              (.progress .serverHelloReceived)) :=
          (Talks.single (.note { s with suite := some suite } (.suiteChosen suite))).trans
            (.single (.note _ _))
        refine settles_ok (.hello hm hcheck hstart) ?_ htalk.random htalk
        rw [Step.run_bind_check, Step.run_bind_note, Step.run_bind_modify, hstart]
        rfl
  · next hm =>
    refine settles_refuse ?_ (Step.refuses_unexpectedHandshake m _ s)
    intro act stage' src ht
    cases ht with
    | hello hm' => exact hm _ _ hm'
    | reply hstage => cases hstage

theorem takeCertificate_settles (c : Config) (flight : Flight) (m : Message) (s : Session) :
    Settles c (.certificate flight) m s (takeCertificate c flight m) := by
  unfold takeCertificate
  split
  · next chain encoded hm =>
    dsimp only
    rcases hcheck : c.checkChain flight.suite.keyExchange chain with r | key
    · refine settles_refuse ?_ (Step.refuses_check _ s)
      intro act stage' src ht
      cases ht with
      | certificate hm' hcheck' =>
        rw [hm] at hm'
        cases hm'
        rw [hcheck] at hcheck'
        cases hcheck'
      | reply hstage => cases hstage
    · exact settles_ok (.certificate hm hcheck) (Step.run_bind_check ..) rfl (.single (.note s _))
  · next hm =>
    refine settles_refuse ?_ (Step.refuses_unexpectedHandshake m _ s)
    intro act stage' src ht
    cases ht with
    | certificate hm' => exact hm _ _ hm'
    | reply hstage => cases hstage

theorem takeParams_settles (c : Config) (flight : Flight) (key : Option PublicKey) (m : Message)
    (s : Session) : Settles c (.serverParams flight key) m s (takeParams flight key m) := by
  have hother : (∀ body encoded, m.body ≠ .handshake (.serverKeyExchange body) encoded) →
      ∀ act stage' src, ¬ Takes c s.random m (.serverParams flight key) act stage' src := by
    intro hm act stage' src ht
    cases ht with
    | params hm' => exact hm _ _ hm'
    | reply hstage => cases hstage
  unfold takeParams
  split
  · next body encoded hm =>
    rcases hcheck : flight.checkParams key body with r | exchange
    · refine settles_refuse ?_ (Step.refuses_check _ s)
      intro act stage' src ht
      cases ht with
      | params hm' hcheck' =>
        rw [hm] at hm'
        cases hm'
        rw [hcheck] at hcheck'
        cases hcheck'
      | reply hstage => cases hstage
    · exact settles_ok (.params hm hcheck) (Step.run_bind_check ..) rfl (.single (.note s _))
  · next chain encoded hm =>
    refine settles_refuse (hother fun _ _ hm' => ?_) ?_
    · rw [hm] at hm'
      cases hm'
    · split
      · exact Step.refuses_refuse _ s
      · exact Step.refuses_unexpectedHandshake m _ s
  · next hm _ =>
    exact settles_refuse (hother fun _ _ => hm _ _) (Step.refuses_unexpectedHandshake m _ s)

theorem answer_settles {flight : Flight} {key : Option PublicKey}
    {request : Option CertificateRequest} {encoded : Bytes} (hstage : Answers stage flight key request)
    (hm : m.body = .handshake .serverHelloDone encoded) (hs : s.Idle) :
    Settles c stage m s (answer c flight key request m) := by
  by_cases h : ∃ r src, c.Replies flight key request m s.random r src
  · obtain ⟨r, src, h⟩ := h
    obtain ⟨s', hrun, hrandom, hanswered⟩ := answer_ok hs h
    exact settles_ok (.reply hstage hm h) hrun hrandom hanswered
  · have h : ∀ r src, ¬ c.Replies flight key request m s.random r src :=
      fun r src hr => h ⟨r, src, hr⟩
    obtain ⟨e, s', ms, src, hrun, hbreaks, hsaid⟩ := answer_error hs h
    refine .inr ⟨?_, e, s', hrun,
      .inr ⟨flight, key, request, encoded, ms, src, hstage, hm, hbreaks, hsaid⟩⟩
    intro act stage' src ht
    cases ht with
    | reply hstage' hm' hr =>
      cases hstage with
      | unasked => cases hstage'; exact h _ _ hr
      | asked => cases hstage'; exact h _ _ hr
    | request hm' => rw [hm] at hm'; cases hm'
    | _ => cases hstage

theorem takeRequest_settles (c : Config) (flight : Flight) (key : Option PublicKey) (m : Message)
    {request : CertificateRequest} {encoded : Bytes}
    (hm : m.body = .handshake (.certificateRequest request) encoded) (s : Session) :
    Settles c (.requestOrDone flight key) m s (takeRequest flight key request m) :=
  settles_ok (.request hm) rfl rfl ((Talks.single (.note s _)).trans (.single (.note _ _)))

theorem takeKeyChange_settles (c : Config) (secrets : Secrets) (t : Bytes) (m : Message)
    (s : Session) : Settles c (.keyChange secrets t) m s (takeKeyChange secrets t m) := by
  unfold takeKeyChange
  split
  · next hm => exact settles_ok (.keyChange hm) rfl rfl (.single (.note s.startReceiving _))
  · next hm =>
    refine settles_refuse ?_ (Step.refuses_unexpectedMessage m _ s)
    intro act stage' src ht
    cases ht with
    | keyChange hm' => exact hm hm'
    | reply hstage => cases hstage

theorem takeFinished_settles (c : Config) (secrets : Secrets) (t : Bytes) (m : Message)
    (s : Session) : Settles c (.finished secrets t) m s (takeFinished secrets t m) := by
  unfold takeFinished
  split
  · next proof encoded hm =>
    by_cases hcheck : secrets.serverVerify (Transcript.digest t) = proof
    · have htalk : Talks { s with traffic := true } (s.startTraffic.note (.progress .done)) :=
        (Session.talks_startTraffic s).trans (.single (.note _ _))
      refine settles_ok (.finished hm hcheck) ?_ ?_ htalk
      · rw [if_neg (not_not.mpr hcheck)]
        rfl
      · exact htalk.random
    · refine settles_refuse ?_ ?_
      · intro act stage' src ht
        cases ht with
        | finished hm' hcheck' =>
          rw [hm] at hm'
          cases hm'
          exact hcheck hcheck'
        | reply hstage => cases hstage
      · rw [if_pos hcheck]
        exact ⟨.cannotDecrypt, _, rfl, Session.talks_abort s .handshakeFailure⟩
  · next hm =>
    refine settles_refuse ?_ (Step.refuses_unexpectedHandshake m _ s)
    intro act stage' src ht
    cases ht with
    | finished hm' => exact hm _ _ hm'
    | reply hstage => cases hstage

theorem takeData_settles (c : Config) (m : Message) (s : Session) :
    Settles c .traffic m s (takeData m) := by
  unfold takeData
  split
  · next bytes hm => exact settles_ok (.data hm) rfl rfl (Session.talks_receiveData s bytes)
  · next hm =>
    refine settles_refuse ?_ (Step.refuses_unexpectedMessage m _ s)
    intro act stage' src ht
    cases ht with
    | data hm' => exact hm _ hm'
    | reply hstage => cases hstage

/-- A message is taken in as `Takes` says, or it fails. -/
theorem handle_settles (c : Config) (stage : Stage) (m : Message) {s : Session}
    (hs : ∀ flight key request, Answers stage flight key request → s.Idle) :
    Settles c stage m s (stage.handle c m) := by
  cases stage with
  | serverHello random t offered => exact takeHello_settles c random t offered m s
  | certificate flight => exact takeCertificate_settles c flight m s
  | serverParams flight key => exact takeParams_settles c flight key m s
  | requestOrDone flight key =>
    rw [handle]
    split
    · next encoded hm =>
      exact answer_settles (.unasked flight key) hm (hs _ _ _ (.unasked flight key))
    · next request encoded hm => exact takeRequest_settles c flight key m hm s
    · next hdone hrequest =>
      refine settles_refuse ?_ (Step.refuses_unexpectedHandshake m _ s)
      intro act stage' src ht
      cases ht with
      | request hm' => exact hrequest _ _ hm'
      | reply hstage hm' => exact hdone _ hm'
  | done flight key request =>
    rw [handle]
    split
    · next encoded hm =>
      exact answer_settles (.asked flight key request) hm (hs _ _ _ (.asked flight key request))
    · next hdone =>
      refine settles_refuse ?_ (Step.refuses_unexpectedHandshake m _ s)
      intro act stage' src ht
      cases ht with
      | reply hstage hm' => exact hdone _ hm'
  | keyChange secrets t => exact takeKeyChange_settles c secrets t m s
  | finished secrets t => exact takeFinished_settles c secrets t m s
  | traffic => exact takeData_settles c m s

/-- Handling a message does what `Takes` says and nothing else. -/
theorem handle_ok (hs : ∀ flight key request, Answers stage flight key request → s.Idle)
    (h : (stage.handle c m).run s = (.ok stage', s')) :
    ∃ act, Takes c s.random m stage act stage' s'.random ∧ act.Performed s s' := by
  rcases handle_settles c stage m hs with ⟨act, stage'', s'', ht, hrun, hact⟩ | ⟨-, e, s'', hrun, -⟩
  · rw [h] at hrun
    cases hrun
    exact ⟨act, ht, hact⟩
  · rw [h] at hrun
    cases (Prod.mk.inj hrun).1

/-- A message that is not taken in fails. -/
theorem handle_error {e : TlsError}
    (hs : ∀ flight key request, Answers stage flight key request → s.Idle)
    (h : (stage.handle c m).run s = (.error e, s')) :
    (∀ act stage' src, ¬ Takes c s.random m stage act stage' src) ∧ Fails c stage m s s' := by
  rcases handle_settles c stage m hs with ⟨act, stage'', s'', ht, hrun, hact⟩ |
    ⟨hno, e', s'', hrun, hfails⟩
  · rw [h] at hrun
    cases (Prod.mk.inj hrun).1
  · rw [h] at hrun
    cases hrun
    exact ⟨hno, hfails⟩

end Stage

/-! ## Only one way -/

/-- There is at most one reply. -/
theorem Config.Replies.unique {c : Config} {flight : Flight} {key : Option PublicKey}
    {request : Option CertificateRequest} {m : Message} {src src₁ src₂ : RandomSource}
    {r₁ r₂ : Reply} (h₁ : c.Replies flight key request m src r₁ src₁)
    (h₂ : c.Replies flight key request m src r₂ src₂) : r₂ = r₁ ∧ src₂ = src₁ := by
  obtain ⟨hagreement, hsrc⟩ := Prod.mk.inj (h₂.agreement.symm.trans h₁.agreement)
  obtain ⟨certificate, agreement, signature, secrets, sending, receiving, transcript⟩ := r₁
  obtain ⟨certificate', agreement', signature', secrets', sending', receiving', transcript'⟩ := r₂
  obtain rfl : certificate' = certificate := h₂.certificate.trans h₁.certificate.symm
  obtain rfl : agreement' = agreement := Except.ok.inj hagreement
  obtain rfl : signature' = signature := Except.ok.inj (h₂.signature.symm.trans h₁.signature)
  obtain rfl : secrets' = secrets := h₂.secrets.trans h₁.secrets.symm
  obtain rfl : sending' = sending := Except.ok.inj (h₂.sending.symm.trans h₁.sending)
  obtain rfl : receiving' = receiving := Except.ok.inj (h₂.receiving.symm.trans h₁.receiving)
  obtain rfl : transcript' = transcript := h₂.transcript.trans h₁.transcript.symm
  exact ⟨rfl, hsrc⟩

namespace Stage

theorem Answers.unique {stage : Stage} {flight₁ flight₂ : Flight} {key₁ key₂ : Option PublicKey}
    {request₁ request₂ : Option CertificateRequest} (h₁ : Answers stage flight₁ key₁ request₁)
    (h₂ : Answers stage flight₂ key₂ request₂) :
    flight₂ = flight₁ ∧ key₂ = key₁ ∧ request₂ = request₁ := by
  cases h₁ <;> cases h₂ <;> exact ⟨rfl, rfl, rfl⟩

/-- A message leads to at most one stage. -/
theorem Takes.unique {c : Config} {src src₁ src₂ : RandomSource} {m : Message}
    {stage stage₁ stage₂ : Stage} {act₁ act₂ : Act} (h₁ : Takes c src m stage act₁ stage₁ src₁)
    (h₂ : Takes c src m stage act₂ stage₂ src₂) : act₂ = act₁ ∧ stage₂ = stage₁ ∧ src₂ = src₁ := by
  have hbody : ∀ {b b' : MessageBody}, m.body = b → m.body = b' → b' = b :=
    fun h h' => h'.symm.trans h
  cases h₁ with
  | hello hm hcheck hstart =>
    cases h₂ with
    | reply hstage => cases hstage
    | hello hm' hcheck' hstart' =>
      cases hbody hm hm'
      cases hcheck.symm.trans hcheck'
      cases hstart.symm.trans hstart'
      exact ⟨rfl, rfl, rfl⟩
  | certificate hm hcheck =>
    cases h₂ with
    | reply hstage => cases hstage
    | certificate hm' hcheck' =>
      cases hbody hm hm'
      cases hcheck.symm.trans hcheck'
      exact ⟨rfl, rfl, rfl⟩
  | params hm hcheck =>
    cases h₂ with
    | reply hstage => cases hstage
    | params hm' hcheck' =>
      cases hbody hm hm'
      cases hcheck.symm.trans hcheck'
      exact ⟨rfl, rfl, rfl⟩
  | request hm =>
    cases h₂ with
    | reply hstage hm' => cases hbody hm hm'
    | request hm' =>
      cases hbody hm hm'
      exact ⟨rfl, rfl, rfl⟩
  | reply hstage hm hreply =>
    cases h₂ with
    | request hm' => cases hbody hm hm'
    | reply hstage' hm' hreply' =>
      obtain ⟨rfl, rfl, rfl⟩ := hstage.unique hstage'
      obtain ⟨rfl, rfl⟩ := hreply.unique hreply'
      exact ⟨rfl, rfl, rfl⟩
    | _ => cases hstage
  | keyChange hm =>
    cases h₂ with
    | reply hstage => cases hstage
    | keyChange => exact ⟨rfl, rfl, rfl⟩
  | finished hm =>
    cases h₂ with
    | reply hstage => cases hstage
    | finished => exact ⟨rfl, rfl, rfl⟩
  | data hm =>
    cases h₂ with
    | reply hstage => cases hstage
    | data => exact ⟨rfl, rfl, rfl⟩

end Stage

/-- A stage after the client's reply. -/
inductive Stage.Late : Stage → Prop
  | keyChange (secrets : Secrets) (t : Bytes) : Late (.keyChange secrets t)
  | finished (secrets : Secrets) (t : Bytes) : Late (.finished secrets t)
  | traffic : Late .traffic

theorem Stage.Late.not_answers {stage : Stage} {flight : Flight} {key : Option PublicKey}
    {request : Option CertificateRequest} (h : stage.Late) : ¬ stage.Answers flight key request := by
  intro ha
  cases h <;> cases ha

/-- There is no way back behind the reply. -/
theorem Stage.Late.takes {c : Config} {src src' : RandomSource} {m : Message} {stage stage' : Stage}
    {act : Act} (h : stage.Late) (ht : stage.Takes c src m act stage' src') : stage'.Late := by
  cases ht with
  | keyChange => exact .finished _ _
  | finished => exact .traffic
  | data => exact .traffic
  | reply hanswers => exact absurd hanswers h.not_answers
  | _ => cases h

/-! ## Courses -/

/-- A sequence of messages that lead on from a stage one after another. -/
inductive Course (c : Config) (stage₀ : Stage) (src₀ : RandomSource) :
    List Message → Stage → RandomSource → Prop
  | start : Course c stage₀ src₀ [] stage₀ src₀
  | step {ms stage src m act stage' src'} (h : Course c stage₀ src₀ ms stage src)
    (ht : stage.Takes c src m act stage' src') : Course c stage₀ src₀ (ms ++ [m]) stage' src'

namespace Course

variable {c : Config} {stage₀ stage stage' : Stage} {src₀ src src' : RandomSource}
  {ms ns : List Message}

theorem nil_inv (h : Course c stage₀ src₀ [] stage src) : stage = stage₀ ∧ src = src₀ := by
  generalize hms : ([] : List Message) = ms at h
  cases h with
  | start => exact ⟨rfl, rfl⟩
  | step => simp at hms

theorem concat_inv {m : Message} (h : Course c stage₀ src₀ (ms ++ [m]) stage src) :
    ∃ stage₁ src₁ act, Course c stage₀ src₀ ms stage₁ src₁ ∧
      stage₁.Takes c src₁ m act stage src := by
  generalize hns : ms ++ [m] = ns at h
  cases h with
  | start => simp at hns
  | step h ht =>
    obtain ⟨rfl, rfl⟩ := List.append_singleton_inj.mp hns
    exact ⟨_, _, _, h, ht⟩

/-- A course can be followed up to any of its messages. -/
theorem append_inv (h : Course c stage₀ src₀ (ms ++ ns) stage src) :
    ∃ stage₁ src₁, Course c stage₀ src₀ ms stage₁ src₁ ∧ Course c stage₁ src₁ ns stage src := by
  induction ns using List.reverseRecOn generalizing stage src with
  | nil => exact ⟨stage, src, by rwa [List.append_nil] at h, .start⟩
  | append_singleton ns n ih =>
    rw [← List.append_assoc] at h
    obtain ⟨stage₂, src₂, act, h, ht⟩ := h.concat_inv
    obtain ⟨stage₁, src₁, h₁, h₂⟩ := ih h
    exact ⟨stage₁, src₁, h₁, h₂.step ht⟩

/-- The same messages lead to the same stage. -/
theorem unique (h : Course c stage₀ src₀ ms stage src) (h' : Course c stage₀ src₀ ms stage' src') :
    stage' = stage ∧ src' = src := by
  induction h generalizing stage' src' with
  | start => exact h'.nil_inv
  | step h ht ih =>
    obtain ⟨stage₁, src₁, act, h₁, ht₁⟩ := h'.concat_inv
    obtain ⟨rfl, rfl⟩ := ih h₁
    exact (ht.unique ht₁).2

theorem late (h : Course c stage₀ src₀ ms stage src) (hlate : stage₀.Late) : stage.Late := by
  induction h with
  | start => exact hlate
  | step _ ht ih => exact ih.takes ht

end Course

end TlsClient
