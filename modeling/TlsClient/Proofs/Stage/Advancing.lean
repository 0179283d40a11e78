import TlsClient.Proofs.Stage.Checks

/-!
# How a message moves a handshake on

Of the points that a handshake passes some can be seen between calls (`Progress.seen`).  Taking in a message
never leads back among them (`Stage.Takes.precedes`).  The first message that is taken in chooses the suite
from those on offer (`Stage.Takes.chooses`); past the first stage no message changes it, whether it is taken
in or refused (`Stage.handle_suite`).
-/

namespace TlsClient

namespace Progress

/-- The points of a handshake that can be seen from outside, in order; a failure comes last.  The others
are passed within one step. -/
def seen : List Progress :=
  [clientHelloSent, serverHelloReceived, serverCertificateReceived, serverKeyExchangeReceived,
    certificateRequestReceived, clientFinishedSent, serverChangeCipherSpecReceived, done, failed]

/-- One point is another or comes before it. -/
def Precedes (p q : Progress) : Prop := seen.idxOf p ≤ seen.idxOf q

instance (p q : Progress) : Decidable (p.Precedes q) := Nat.decLe ..

theorem Precedes.refl (p : Progress) : p.Precedes p := Nat.le_refl _

theorem Precedes.trans {p q r : Progress} (h : p.Precedes q) (h' : q.Precedes r) : p.Precedes r :=
  Nat.le_trans h h'

/-- Every point precedes a failure. -/
theorem precedes_failed {p : Progress} (h : p ∈ seen) : p.Precedes failed := by
  have hall : ∀ p ∈ seen, p.Precedes failed := by decide
  exact hall p h

end Progress

namespace Stage

variable {c : Config} {stage stage' : Stage} {m : Message} {act : Act} {src src' : RandomSource}
  {s s' : Session}

theorem progress_afterHello (flight : Flight) :
    (afterHello flight).progress = .serverHelloReceived := by
  unfold afterHello
  split <;> rfl

theorem progress_afterCertificate (flight : Flight) (key : PublicKey) :
    (if flight.suite.keyExchange.expectsServerParams then .serverParams flight (some key)
      else .requestOrDone flight (some key) : Stage).progress = .serverCertificateReceived := by
  split
  · rfl
  · next hexpects => exact if_neg hexpects

theorem progress_serverParams (flight : Flight) (key : Option PublicKey) :
    (serverParams flight key).progress = .serverHelloReceived ∨
      (serverParams flight key).progress = .serverCertificateReceived := by
  cases key with
  | none => exact .inl rfl
  | some key => exact .inr rfl

theorem progress_requestOrDone (flight : Flight) (key : Option PublicKey) :
    (requestOrDone flight key).progress = .serverCertificateReceived ∨
      (requestOrDone flight key).progress = .serverKeyExchangeReceived := by
  by_cases h : flight.suite.keyExchange.expectsServerParams
  · exact .inr (if_pos h)
  · exact .inl (if_neg h)

/-- The progress of a stage can be seen. -/
theorem progress_seen (stage : Stage) : stage.progress ∈ Progress.seen := by
  cases stage with
  | serverParams flight key =>
    rcases progress_serverParams flight key with h | h
    all_goals
      rw [h]
      decide
  | requestOrDone flight key =>
    rcases progress_requestOrDone flight key with h | h
    all_goals
      rw [h]
      decide
  | _ => exact of_decide_eq_true rfl

/-- A message that is taken in leads onward. -/
theorem Takes.precedes (h : stage.Takes c src m act stage' src') :
    stage.progress.Precedes stage'.progress := by
  cases h with
  | hello =>
    rw [progress_afterHello]
    exact of_decide_eq_true rfl
  | @certificate flight chain encoded key =>
    have hprogress := progress_afterCertificate (flight.add m) key
    have hprecedes : Progress.serverHelloReceived.Precedes .serverCertificateReceived := by decide
    rw [← hprogress] at hprecedes
    exact hprecedes
  | @params flight key =>
    rcases progress_serverParams flight key with h | h
    all_goals
      rw [h]
      rcases progress_requestOrDone _ key with h' | h'
      all_goals
        rw [h']
        decide
  | @request flight key =>
    rcases progress_requestOrDone flight key with h | h
    all_goals
      rw [h]
      exact of_decide_eq_true rfl
  | @reply _ flight key request encoded r src' hanswers =>
    cases hanswers with
    | unasked =>
      rcases progress_requestOrDone flight key with h | h
      all_goals
        rw [h]
        exact of_decide_eq_true rfl
    | asked => exact of_decide_eq_true rfl
  | keyChange => exact of_decide_eq_true rfl
  | finished => exact of_decide_eq_true rfl
  | data => exact .refl _

/-! ## The suite -/

/-- Only at the first stage nothing has been received. -/
theorem first_of_progress (h : stage.progress = .clientHelloSent) :
    ∃ random t offered, stage = .serverHello random t offered := by
  cases stage with
  | serverHello random t offered => exact ⟨random, t, offered, rfl⟩
  | serverParams flight key =>
    rcases progress_serverParams flight key with h' | h'
    all_goals cases h'.symm.trans h
  | requestOrDone flight key =>
    rcases progress_requestOrDone flight key with h' | h'
    all_goals cases h'.symm.trans h
  | _ => cases h

/-- No message leads to the first stage. -/
theorem Takes.progress_ne (h : stage.Takes c src m act stage' src') :
    stage'.progress ≠ .clientHelloSent := by
  intro hfirst
  cases h with
  | hello =>
    rw [progress_afterHello] at hfirst
    cases hfirst
  | @certificate flight chain encoded key =>
    cases (progress_afterCertificate (flight.add m) key).symm.trans hfirst
  | @params flight key =>
    obtain ⟨_, _, _, heq⟩ := first_of_progress hfirst
    cases heq
  | request | reply | keyChange | finished | data => cases hfirst

/-- The first message that is taken in chooses the suite from those on offer. -/
theorem Takes.chooses (h : stage.Takes c src m act stage' src')
    (hfirst : stage.progress = .clientHelloSent) (hact : act.Performed s s') :
    ∃ suite ∈ c.suites, s'.suite = some suite := by
  obtain ⟨random, t, offered, rfl⟩ := first_of_progress hfirst
  cases h with
  | @hello _ _ _ _ _ suite _ hm hcheck =>
    have htalk : Session.Talks { s with suite := some suite } s' := hact
    exact ⟨suite, (Config.checkHello_ok hcheck).offers, htalk.suite⟩
  | reply hanswers => cases hanswers

end Stage

namespace Step

variable {α β : Type} {x : Step α} {f : α → Step β}

/-- A step that leaves the suite alone. -/
def LeavesSuite (x : Step α) : Prop := ∀ s, (x.run s).2.suite = s.suite

theorem leavesSuite_bind (hx : LeavesSuite x) (hf : ∀ a, LeavesSuite (f a)) :
    LeavesSuite (x >>= f) := by
  intro s
  have hfirst := hx s
  rcases h : x.run s with ⟨e | a, s'⟩
  all_goals rw [h] at hfirst
  · rw [run_bind_of_error h]
    exact hfirst
  · rw [run_bind_of_ok h]
    exact (hf a s').trans hfirst

theorem leavesSuite_pure (a : α) : LeavesSuite (pure a : Step α) := fun _ => rfl

theorem leavesSuite_refuse (r : Refusal) : LeavesSuite (refuse r : Step α) :=
  fun s => (Session.talks_abort s r.alert).suite

theorem leavesSuite_check (r : Except Refusal α) : LeavesSuite (check r) := by
  cases r with
  | error why => exact leavesSuite_refuse why
  | ok a => exact leavesSuite_pure a

theorem leavesSuite_unexpectedMessage (m : Message) (expected : List ContentType) :
    LeavesSuite (unexpectedMessage m expected : Step α) := fun _ => rfl

theorem leavesSuite_unexpectedHandshake (m : Message) (expected : List HandshakeType) :
    LeavesSuite (unexpectedHandshake m expected : Step α) := by
  unfold unexpectedHandshake
  split
  · exact fun _ => rfl
  · exact leavesSuite_unexpectedMessage m _

end Step

namespace Stage

open Step (LeavesSuite)

theorem takeCertificate_leavesSuite (c : Config) (flight : Flight) (m : Message) :
    LeavesSuite (takeCertificate c flight m) := by
  unfold takeCertificate
  split
  · exact Step.leavesSuite_bind (Step.leavesSuite_check _) fun _ _ => rfl
  · exact Step.leavesSuite_unexpectedHandshake m _

theorem takeParams_leavesSuite (flight : Flight) (key : Option PublicKey) (m : Message) :
    LeavesSuite (takeParams flight key m) := by
  unfold takeParams
  split
  · exact Step.leavesSuite_bind (Step.leavesSuite_check _) fun _ _ => rfl
  · split
    · exact Step.leavesSuite_refuse _
    · exact Step.leavesSuite_unexpectedHandshake m _
  · exact Step.leavesSuite_unexpectedHandshake m _

theorem answer_suite (c : Config) (flight : Flight) (key : Option PublicKey)
    (request : Option CertificateRequest) (m : Message) (hs : s.Idle) :
    ((answer c flight key request m).run s).2.suite = s.suite := by
  by_cases h : ∃ r src, c.Replies flight key request m s.random r src
  · obtain ⟨r, src, h⟩ := h
    obtain ⟨s', hrun, -, hanswered⟩ := answer_ok hs h
    rw [hrun]
    exact hanswered.suite
  · obtain ⟨e, s', ms, src, hrun, -, hsaid⟩ := answer_error hs fun r src hr => h ⟨r, src, hr⟩
    rw [hrun]
    exact congrArg Session.Frame.suite hsaid.frame

theorem takeFinished_leavesSuite (secrets : Secrets) (t : Bytes) (m : Message) :
    LeavesSuite (takeFinished secrets t m) := by
  have htraffic : LeavesSuite (do
      modify Session.startTraffic
      Step.progress .done
      return Stage.traffic) := fun s => (Session.talks_startTraffic s).suite
  unfold takeFinished
  split
  · split
    · exact Step.leavesSuite_bind (Step.leavesSuite_refuse _) fun _ => htraffic
    · exact htraffic
  · exact Step.leavesSuite_unexpectedHandshake m _

/-- A hello is the only message that can change the suite, and it changes it to one on offer. -/
theorem takeHello_suite (c : Config) (random : HelloRandom) (t : Transcript)
    (offered : List ExtensionType) (m : Message) (s : Session) :
    ((takeHello c random t offered m).run s).2.suite = s.suite ∨
      ∃ suite ∈ c.suites, ((takeHello c random t offered m).run s).2.suite = some suite := by
  unfold takeHello
  split
  · next hello encoded hm =>
    cases hcheck : c.checkHello offered hello with
    | error r => exact .inl (Session.talks_abort s r.alert).suite
    | ok suite =>
      refine .inr ⟨suite, (Config.checkHello_ok hcheck).offers, ?_⟩
      rw [Step.run_bind_check, Step.run_bind_note, Step.run_bind_modify]
      cases KeyExchange.start suite.keyExchange c.srp <;> rfl
  · exact .inl (Step.leavesSuite_unexpectedHandshake m _ s)

/-- What a message that is handled does to the suite: past the first stage nothing, and at it at most the
choice of one that is on offer. -/
theorem handle_suite (hs : ∀ flight key request, Answers stage flight key request → s.Idle) :
    ((stage.handle c m).run s).2.suite = s.suite ∨
      stage.progress = .clientHelloSent ∧
        ∃ suite ∈ c.suites, ((stage.handle c m).run s).2.suite = some suite := by
  cases stage with
  | serverHello random t offered =>
    exact (takeHello_suite c random t offered m s).imp_right fun h => ⟨rfl, h⟩
  | certificate flight => exact .inl (takeCertificate_leavesSuite c flight m s)
  | serverParams flight key => exact .inl (takeParams_leavesSuite flight key m s)
  | requestOrDone flight key =>
    rw [handle]
    split
    · exact .inl (answer_suite c flight key none m (hs _ _ _ (.unasked flight key)))
    · exact .inl rfl
    · exact .inl (Step.leavesSuite_unexpectedHandshake m _ s)
  | done flight key request =>
    rw [handle]
    split
    · exact .inl (answer_suite c flight key (some request) m (hs _ _ _ (.asked flight key request)))
    · exact .inl (Step.leavesSuite_unexpectedHandshake m _ s)
  | keyChange secrets t =>
    rw [handle, takeKeyChange]
    split
    · exact .inl rfl
    · exact .inl rfl
  | finished secrets t => exact .inl (takeFinished_leavesSuite secrets t m s)
  | traffic =>
    rw [handle, takeData]
    split
    · exact .inl rfl
    · exact .inl rfl

end Stage

end TlsClient
