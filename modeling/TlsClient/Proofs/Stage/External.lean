import TlsClient.Proofs.Stage.Provided
import TlsClient.Proofs.Stage.Replying
import TlsClient.Stage.Handle

/-!
# What a provided stage does not fail with

Handling a message fails for what the server sent, for want of random bytes, or because the client's own key
cannot sign.  A stage that is provided does not fail for anything that it would lack (`Provided.external`).
-/

namespace TlsClient

namespace Step

variable {α β : Type}

/-- A step that does not fail for a mistake in the client itself. -/
def External (x : Step α) : Prop := ∀ s e, (x.run s).1 = .error e → ¬ e.Internal

theorem external_bind {x : Step α} {f : α → Step β} (hx : External x) (hf : ∀ a, External (f a)) :
    External (x >>= f) := by
  intro s e h
  rcases hrun : x.run s with ⟨e' | a, s'⟩
  · rw [run_bind_of_error hrun] at h
    cases h
    exact hx s e (by rw [hrun])
  · rw [run_bind_of_ok hrun] at h
    exact hf a s' e h

theorem external_ofExcept {r : Except TlsError α} (h : ∀ e, r = .error e → ¬ e.Internal) :
    External (ofExcept r) := fun _ e he => h e he

theorem external_pure (a : α) : External (pure a : Step α) :=
  external_ofExcept (r := .ok a) fun _ h => by cases h

theorem external_throw {e : TlsError} (h : ¬ e.Internal) : External (throw e : Step α) :=
  external_ofExcept (r := .error e) fun _ h' => by
    cases h'
    exact h

theorem external_modify (g : Session → Session) : External (modify g : Step Unit) := by
  intro s e h
  cases h

theorem external_draw {d : Drawing α} (h : d.FailsAs fun e => ¬ e.Internal) : External (draw d) :=
  fun s e he => h s.random e he

theorem external_refuse {r : Refusal} (h : ¬ r.error.Internal) : External (refuse r : Step α) :=
  external_bind (external_modify _) fun _ => external_throw h

/-- A check is followed only if it succeeds. -/
theorem external_bind_check {r : Except Refusal α} {f : α → Step β}
    (h : ∀ why, r = .error why → ¬ why.error.Internal) (hf : ∀ a, r = .ok a → External (f a)) :
    External (check r >>= f) := by
  cases r with
  | error why =>
    intro s e he
    have hrun := run_bind_of_error (f := f) (run_refuse (α := α) why s)
    rw [show check (.error why) = refuse why from rfl, hrun] at he
    cases he
    exact h why rfl
  | ok a => exact hf a rfl

theorem external_unexpectedMessage (m : Message) (expected : List ContentType) :
    External (unexpectedMessage m expected : Step α) :=
  external_bind (external_modify _) fun _ => external_throw (by rintro ⟨⟩)

theorem external_unexpectedHandshake (m : Message) (expected : List HandshakeType) :
    External (unexpectedHandshake m expected : Step α) := by
  unfold unexpectedHandshake
  split
  · exact external_bind (external_modify _) fun _ => external_throw (by rintro ⟨⟩)
  · exact external_unexpectedMessage m _

end Step

/-! ## Checks -/

theorem Config.checkHello_external {c : Config} {offered : List ExtensionType} {hello : ServerHello}
    {r : Refusal} (h : c.checkHello offered hello = .error r) : ¬ r.error.Internal := by
  obtain ⟨-, ⟨why, he⟩ | ⟨why, he⟩⟩ := checkHello_error h
  all_goals
    rw [he]
    rintro ⟨⟩

theorem Config.checkChain_external {c : Config} {method : KeyExchangeMethod} {chain : List Certificate}
    {r : Refusal} (h : c.checkChain method chain = .error r) : ¬ r.error.Internal := by
  obtain ⟨-, he | ⟨why, he⟩ | ⟨why, he⟩⟩ := checkChain_error h
  all_goals
    rw [he]
    rintro ⟨⟩

/-! ## The stages -/

namespace Stage

open Step

variable {c : Config}

/-- A handshake fails to start only for want of random bytes. -/
theorem external_start (c : Config) (time : Nat) : External (start c time) :=
  external_bind (external_modify _) fun _ =>
    external_bind (external_draw (Drawing.failsAs_helloRandom (by rintro ⟨⟩) time)) fun _ =>
    external_bind (external_modify _) fun _ => external_bind (external_modify _) fun _ =>
    external_pure _

theorem external_emit (m : HandshakeMessage) (t : Transcript) : External (emit m t) :=
  external_bind (external_modify _) fun _ => external_pure _

theorem external_sendCertificate (c : Config) (request : Option CertificateRequest) (t : Transcript) :
    External (sendCertificate c request t) := by
  unfold sendCertificate
  split
  · exact external_pure _
  · refine external_bind ?_ fun auth => external_bind (external_modify _) fun _ =>
      external_bind (external_emit _ _) fun _ => external_pure _
    unfold chooseAuth
    split
    · exact external_pure _
    · dsimp only
      split
      · exact external_pure _
      · exact external_bind (external_modify _) fun _ => external_pure _

/-- A key that cannot sign is the user's, and no mistake in the client. -/
theorem external_sendVerify (auth : Option ClientAuth) (t : Transcript) :
    External (sendVerify auth t) := by
  unfold sendVerify
  dsimp only
  split
  · next auth signed _ =>
    refine external_bind (external_ofExcept fun e h => ?_) fun _ =>
      external_bind (external_emit _ _) fun _ =>
        external_bind (external_modify _) fun _ => external_pure _
    obtain ⟨why, rfl⟩ := SigningKey.sign_error h
    rintro ⟨⟩
  · exact external_pure _

theorem external_reportSecrets (c : Config) (secrets : Secrets) :
    External (reportSecrets c secrets) := by
  unfold reportSecrets
  split
  · exact external_modify _
  · exact external_pure _

/-- Changing the keys does not fail at all. -/
theorem external_changeKeys (secrets : Secrets) : External (changeKeys secrets) := by
  intro s e h
  obtain ⟨s', sending, receiving, hrun, -⟩ := changeKeys_always secrets s
  rw [hrun] at h
  cases h

theorem external_answer (c : Config) {flight : Flight} {key : Option PublicKey}
    (hagrees : (flight.exchange.agree key).FailsAs fun e => ¬ e.Internal)
    (request : Option CertificateRequest) (m : Message) :
    External (answer c flight key request m) :=
  external_bind (external_modify _) fun _ =>
    external_bind (external_sendCertificate _ _ _) fun _ =>
    external_bind (external_draw hagrees) fun _ =>
    external_bind (external_emit _ _) fun _ =>
    external_bind (external_modify _) fun _ =>
    external_bind (external_sendVerify _ _) fun _ =>
    external_bind (external_reportSecrets _ _) fun _ =>
    external_bind (external_changeKeys _) fun _ =>
    external_bind (external_bind (external_modify _) fun _ => external_pure _) fun _ =>
    external_bind (external_modify _) fun _ => external_pure _

theorem external_takeHello
    (hstarts : ∀ offered hello suite, c.checkHello offered hello = .ok suite →
      ∃ exchange, KeyExchange.start suite.keyExchange c.srp = .ok exchange)
    (random : HelloRandom) (t : Transcript) (offered : List ExtensionType) (m : Message) :
    External (takeHello c random t offered m) := by
  unfold takeHello
  split
  · next hello _ _ =>
    refine external_bind_check (fun _ => Config.checkHello_external) fun suite hcheck => ?_
    obtain ⟨exchange, hstart⟩ := hstarts offered hello suite hcheck
    refine external_bind (external_modify _) fun _ => external_bind (external_modify _) fun _ =>
      external_bind (external_ofExcept fun e h => ?_) fun _ =>
        external_bind (external_modify _) fun _ => external_pure _
    rw [hstart] at h
    cases h
  · exact external_unexpectedHandshake m _

theorem external_takeCertificate (flight : Flight) (m : Message) :
    External (takeCertificate c flight m) := by
  unfold takeCertificate
  split
  · exact external_bind_check (fun _ => Config.checkChain_external) fun _ _ =>
      external_bind (external_modify _) fun _ => external_pure _
  · exact external_unexpectedHandshake m _

theorem external_takeParams {flight : Flight} {key : Option PublicKey} {m : Message}
    (haccepts : ∀ body encoded, m.body = .handshake (.serverKeyExchange body) encoded →
      ∀ why, flight.checkParams key body = .error why → ¬ why.error.Internal) :
    External (takeParams flight key m) := by
  unfold takeParams
  split
  · next body encoded hbody =>
    exact external_bind_check (haccepts body encoded hbody) fun _ _ =>
      external_bind (external_modify _) fun _ => external_pure _
  · split
    · exact external_refuse (by rintro ⟨⟩)
    · exact external_unexpectedHandshake m _
  · exact external_unexpectedHandshake m _

theorem external_takeRequest (flight : Flight) (key : Option PublicKey) (request : CertificateRequest)
    (m : Message) : External (takeRequest flight key request m) :=
  external_bind (external_modify _) fun _ => external_bind (external_modify _) fun _ => external_pure _

theorem external_takeKeyChange (secrets : Secrets) (transcript : Bytes) (m : Message) :
    External (takeKeyChange secrets transcript m) := by
  unfold takeKeyChange
  split
  · exact external_bind (external_modify _) fun _ => external_bind (external_modify _) fun _ =>
      external_pure _
  · exact external_unexpectedMessage m _

theorem external_takeFinished (secrets : Secrets) (transcript : Bytes) (m : Message) :
    External (takeFinished secrets transcript m) := by
  have hends : External (do
      modify Session.startTraffic
      Step.progress .done
      return Stage.traffic : Step Stage) :=
    external_bind (external_modify _) fun _ => external_bind (external_modify _) fun _ => external_pure _
  unfold takeFinished
  split
  · dsimp only
    split
    · exact external_bind (external_refuse (by rintro ⟨⟩)) fun _ => hends
    · exact hends
  · exact external_unexpectedHandshake m _

theorem external_takeData (m : Message) : External (takeData m) := by
  unfold takeData
  split
  · exact external_bind (external_modify _) fun _ => external_pure _
  · exact external_unexpectedMessage m _

/-- A stage that is provided fails for what comes from outside, if it fails. -/
theorem Provided.external {stage : Stage} {m : Message} (h : stage.Provided c m) :
    External (stage.handle c m) := by
  cases stage with
  | serverHello random t offered => exact external_takeHello h.starts random t offered m
  | certificate flight => exact external_takeCertificate flight m
  | serverParams flight key =>
    exact external_takeParams fun body encoded hbody => (h.accepts flight key body encoded rfl hbody).2
  | requestOrDone flight key =>
    rw [handle]
    split
    · exact external_answer c (h.agrees flight key none (.unasked flight key)) none m
    · exact external_takeRequest flight key _ m
    · exact external_unexpectedHandshake m _
  | done flight key request =>
    rw [handle]
    split
    · exact external_answer c (h.agrees flight key (some request) (.asked flight key request)) _ m
    · exact external_unexpectedHandshake m _
  | keyChange secrets transcript => exact external_takeKeyChange secrets transcript m
  | finished secrets transcript => exact external_takeFinished secrets transcript m
  | traffic => exact external_takeData m

end Stage

end TlsClient
