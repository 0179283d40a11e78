import TlsClient.Proofs.Stage.Failing
import TlsClient.Proofs.Stage.Steps
import TlsClient.Stage.Handle

/-!
# What every step is made of

Handling a message works on the session in a few ways only: it notes what it does, chooses the suite,
draws random bytes, sends, signals the key change, starts the traffic, or gives up with an alert.  A
property of steps is `ClosedEarly` if these have it and it goes from steps to the step that takes one after
another; then handling any message has it until the handshake is over (`ClosedEarly.handle`).  After that
data is kept as well, so a property is `Closed` if keeping data has it too; then handling any message at any
stage has it (`Closed.handle`).
-/

namespace TlsClient

/-- Whether a notice says that a record could not be sent. -/
def Notice.isLoss : Notice → Bool
  | .undeliverable _ => true
  | _ => false

namespace Step

/-- A property that the ways in which the handshake works on a session have, and steps made of those. -/
structure ClosedEarly (P : (α : Type) → Step α → Prop) : Prop where
  bind : ∀ {α β} {x : Step α} {f : α → Step β}, P α x → (∀ a, P β (f a)) → P β (x >>= f)
  ofExcept : ∀ {α} {r : Except TlsError α}, (∀ e, r = .error e → e.Proper) → P α (ofExcept r)
  draw : ∀ {α} {d : Drawing α}, d.Proper → P α (draw d)
  refuse : ∀ {α} {r : Refusal}, r.Proper → P α (refuse r)
  note : ∀ {n : Notice}, n.isLoss = false → P Unit (note n)
  choose : ∀ suite : Suite, P Unit (modify fun s => { s with suite := some suite })
  report : ∀ label random master, P Unit (modify fun s => s.happened (.secret label random master))
  send : ∀ m : HandshakeMessage, P Unit (Step.send (.ofHandshake m))
  changeKeys : ∀ secrets, P Unit (Stage.changeKeys secrets)
  startReceiving : P Unit (modify Session.startReceiving)
  startTraffic : P Unit (modify Session.startTraffic)

/-- A property that these have, and keeping what the peer wrote. -/
structure Closed (P : (α : Type) → Step α → Prop) : Prop extends ClosedEarly P where
  receiveData : ∀ bs, P Unit (modify fun s => s.receiveData bs)

section

variable {P : (α : Type) → Step α → Prop} {α : Type}

namespace ClosedEarly

variable (closed : ClosedEarly P)
include closed

protected theorem pure (a : α) : P α (Pure.pure a) := closed.ofExcept (r := .ok a) fun _ h => by cases h

protected theorem throw {e : TlsError} (he : e.Proper) : P α (MonadExcept.throw e) :=
  closed.ofExcept (r := .error e) fun _ h => by
    cases h
    exact he

protected theorem progress (p : Progress) : P Unit (Step.progress p) := closed.note rfl

protected theorem check {r : Except Refusal α} (h : ∀ why, r = .error why → why.Proper) :
    P α (check r) := by
  cases r with
  | error why => exact closed.refuse (h why rfl)
  | ok a => exact closed.pure a

protected theorem unexpectedMessage (m : Message) (expected : List ContentType) :
    P α (unexpectedMessage m expected) :=
  closed.bind (closed.note rfl) fun _ => closed.throw fun _ => by rintro ⟨⟩

protected theorem unexpectedHandshake (m : Message) (expected : List HandshakeType) :
    P α (unexpectedHandshake m expected) := by
  unfold Step.unexpectedHandshake
  split
  · exact closed.bind (closed.note rfl) fun _ => closed.throw fun _ => by rintro ⟨⟩
  · exact closed.unexpectedMessage m _

/-! ## The stages -/

protected theorem emit (m : HandshakeMessage) (t : Transcript) : P Transcript (Stage.emit m t) :=
  closed.bind (closed.send m) fun _ => closed.pure _

protected theorem sendCertificate (c : Config) (request : Option CertificateRequest) (t : Transcript) :
    P (Option ClientAuth × Transcript) (Stage.sendCertificate c request t) := by
  unfold Stage.sendCertificate
  split
  · exact closed.pure _
  · refine closed.bind ?_ fun auth => closed.bind (closed.note rfl) fun _ =>
      closed.bind (closed.emit _ _) fun _ => closed.pure _
    unfold Stage.chooseAuth
    split
    · exact closed.pure _
    · dsimp only
      split
      · exact closed.pure _
      · exact closed.bind (closed.note rfl) fun _ => closed.pure _

protected theorem sendVerify (auth : Option ClientAuth) (t : Transcript) :
    P Transcript (Stage.sendVerify auth t) := by
  unfold Stage.sendVerify
  dsimp only
  split
  · exact closed.bind (closed.ofExcept fun _ => SigningKey.sign_proper) fun _ =>
      closed.bind (closed.emit _ _) fun _ =>
        closed.bind (closed.progress _) fun _ => closed.pure _
  · exact closed.pure _

protected theorem reportSecrets (c : Config) (secrets : Secrets) :
    P Unit (Stage.reportSecrets c secrets) := by
  unfold Stage.reportSecrets
  split
  · exact closed.report _ _ _
  · exact closed.pure _

protected theorem answer (c : Config) (flight : Flight) (key : Option PublicKey)
    (request : Option CertificateRequest) (m : Message) :
    P Stage (Stage.answer c flight key request m) :=
  closed.bind (closed.progress _) fun _ =>
    closed.bind (closed.sendCertificate _ _ _) fun _ =>
    closed.bind (closed.draw (KeyExchange.proper_agree _ _)) fun _ =>
    closed.bind (closed.emit _ _) fun _ =>
    closed.bind (closed.progress _) fun _ =>
    closed.bind (closed.sendVerify _ _) fun _ =>
    closed.bind (closed.reportSecrets _ _) fun _ =>
    closed.bind (closed.changeKeys _) fun _ =>
    closed.bind (closed.bind (closed.send _) fun _ => closed.pure _) fun _ =>
    closed.bind (closed.progress _) fun _ => closed.pure _

protected theorem takeHello (c : Config) (random : HelloRandom) (t : Transcript)
    (offered : List ExtensionType) (m : Message) :
    P Stage (Stage.takeHello c random t offered m) := by
  unfold Stage.takeHello
  split
  · exact closed.bind (closed.check fun _ => Config.checkHello_proper) fun _ =>
      closed.bind (closed.note rfl) fun _ =>
      closed.bind (closed.choose _) fun _ =>
      closed.bind (closed.ofExcept fun _ => KeyExchange.start_proper) fun _ =>
      closed.bind (closed.progress _) fun _ => closed.pure _
  · exact closed.unexpectedHandshake m _

protected theorem takeCertificate (c : Config) (flight : Flight) (m : Message) :
    P Stage (Stage.takeCertificate c flight m) := by
  unfold Stage.takeCertificate
  split
  · exact closed.bind (closed.check fun _ => Config.checkChain_proper) fun _ =>
      closed.bind (closed.progress _) fun _ => closed.pure _
  · exact closed.unexpectedHandshake m _

protected theorem takeParams (flight : Flight) (key : Option PublicKey) (m : Message) :
    P Stage (Stage.takeParams flight key m) := by
  unfold Stage.takeParams
  split
  · exact closed.bind (closed.check fun _ => Flight.checkParams_proper) fun _ =>
      closed.bind (closed.progress _) fun _ => closed.pure _
  · split
    · exact closed.refuse ⟨by decide, fun _ => by rintro ⟨⟩⟩
    · exact closed.unexpectedHandshake m _
  · exact closed.unexpectedHandshake m _

protected theorem takeKeyChange (secrets : Secrets) (t : Bytes) (m : Message) :
    P Stage (Stage.takeKeyChange secrets t m) := by
  unfold Stage.takeKeyChange
  split
  · exact closed.bind closed.startReceiving fun _ =>
      closed.bind (closed.progress _) fun _ => closed.pure _
  · exact closed.unexpectedMessage m _

protected theorem takeFinished (secrets : Secrets) (t : Bytes) (m : Message) :
    P Stage (Stage.takeFinished secrets t m) := by
  have hrest : P Stage (do
      modify Session.startTraffic
      Step.progress .done
      return .traffic) :=
    closed.bind closed.startTraffic fun _ => closed.bind (closed.progress _) fun _ => closed.pure _
  unfold Stage.takeFinished
  split
  · split
    · exact closed.bind (closed.refuse ⟨by decide, fun _ => by rintro ⟨⟩⟩) fun _ => hrest
    · exact hrest
  · exact closed.unexpectedHandshake m _

/-- So does the start of a handshake. -/
protected theorem start (c : Config) (time : Nat) : P Stage (Stage.start c time) :=
  closed.bind (closed.progress _) fun _ =>
    closed.bind (closed.draw (Drawing.proper_helloRandom time)) fun _ =>
    closed.bind (closed.send _) fun _ =>
    closed.bind (closed.progress _) fun _ => closed.pure _

/-- Handling any message before the handshake is over has the property. -/
protected theorem handle (c : Config) {stage : Stage} (h : stage ≠ .traffic) (m : Message) :
    P Stage (stage.handle c m) := by
  cases stage with
  | serverHello random t offered => exact closed.takeHello c random t offered m
  | certificate flight => exact closed.takeCertificate c flight m
  | serverParams flight key => exact closed.takeParams flight key m
  | requestOrDone flight key =>
    rw [Stage.handle]
    split
    · exact closed.answer c flight key none m
    · exact closed.bind (closed.note rfl) fun _ => closed.bind (closed.progress _) fun _ =>
        closed.pure _
    · exact closed.unexpectedHandshake m _
  | done flight key request =>
    rw [Stage.handle]
    split
    · exact closed.answer c flight key (some request) m
    · exact closed.unexpectedHandshake m _
  | keyChange secrets t => exact closed.takeKeyChange secrets t m
  | finished secrets t => exact closed.takeFinished secrets t m
  | traffic => exact absurd rfl h

end ClosedEarly

namespace Closed

variable (closed : Closed P)
include closed

protected theorem takeData (m : Message) : P Stage (Stage.takeData m) := by
  unfold Stage.takeData
  split
  · exact closed.bind (closed.receiveData _) fun _ => closed.pure _
  · exact closed.unexpectedMessage m _

/-- Handling any message at any stage has the property. -/
protected theorem handle (c : Config) (stage : Stage) (m : Message) : P Stage (stage.handle c m) := by
  by_cases h : stage = .traffic
  · subst h
    exact closed.takeData m
  · exact closed.toClosedEarly.handle c h m

end Closed

end

end Step

end TlsClient
