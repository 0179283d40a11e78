import TlsClient.Proofs.Connection.Chunking
import TlsClient.Proofs.Connection.Standing
import TlsClient.Proofs.Stage.Mirroring

/-!
# Connections that cannot be told apart

Two connections mirror each other if they differ at most in what has arrived, in their keys for what is
received and in what they remember, but not in the records that they have put on their way.  They show the
same (`Mirrors.view`), and taking in the same record, however it was opened, leaves them mirroring each other
(`Mirrors.takeOpened`), as do a failure and every call of the user.
-/

namespace TlsClient.Connection

/-- Two connections that are the same but for what has arrived, how they open records and what they remember. -/
structure Mirrors (c k : Connection) : Prop where
  config : k.config = c.config
  session : c.session.Mirrors k.session
  stage : k.stage = c.stage
  handshakes : k.handshakes = c.handshakes
  alerts : k.alerts = c.alerts

/-- Two outcomes with the same result that cannot be told apart. -/
structure Echoes {α : Type} (x y : α × Connection) : Prop where
  result : y.1 = x.1
  mirrors : x.2.Mirrors y.2

namespace Mirrors

variable {c k l : Connection}

theorem refl (c : Connection) : c.Mirrors c := ⟨rfl, .refl _, rfl, rfl, rfl⟩

theorem symm (h : c.Mirrors k) : k.Mirrors c :=
  ⟨h.config.symm, h.session.symm, h.stage.symm, h.handshakes.symm, h.alerts.symm⟩

theorem trans (h : c.Mirrors k) (h' : k.Mirrors l) : c.Mirrors l :=
  ⟨h'.config.trans h.config, h.session.trans h'.session, h'.stage.trans h.stage,
    h'.handshakes.trans h.handshakes, h'.alerts.trans h.alerts⟩

/-- Another session for each of them. -/
theorem with_session (h : c.Mirrors k) {s t : Session} (hs : s.Mirrors t) :
    ({ c with session := s } : Connection).Mirrors { k with session := t } :=
  ⟨h.config, hs, h.stage, h.handshakes, h.alerts⟩

theorem with_stage (h : c.Mirrors k) (stage : Except TlsError Stage) :
    ({ c with stage } : Connection).Mirrors { k with stage } :=
  ⟨h.config, h.session, rfl, h.handshakes, h.alerts⟩

theorem progress (h : c.Mirrors k) : k.progress = c.progress := by
  rw [Connection.progress, Connection.progress, h.stage]

/-- They show the same. -/
theorem view (h : c.Mirrors k) : k.view = c.view := by
  rw [Connection.view, Connection.view, h.progress, h.session.sent, h.session.outgoing,
    h.session.incoming, h.session.status, h.session.suite]

/-! ## Taking in a record -/

theorem deliver (h : c.Mirrors k) (stage : Stage) (m : Message) :
    Echoes (c.deliver stage m) (k.deliver stage m) := by
  unfold Connection.deliver
  rw [h.session.traffic, h.config]
  split
  · have hwarned := (Step.closedTalk_parallel.sendWarning .noRenegotiation h.session).2
    exact ⟨rfl, rfl, hwarned, h.stage, h.handshakes, h.alerts⟩
  · have hhandled := h.session.happened (e := .handled m) rfl
    obtain ⟨hresult, hsession⟩ := Stage.handle_parallel c.config stage m hhandled
    exact ⟨hresult, rfl, hsession, h.stage, h.handshakes, h.alerts⟩

theorem deliverAll (h : c.Mirrors k) (stage : Stage) (ms : List Message) :
    Echoes (c.deliverAll stage ms) (k.deliverAll stage ms) := by
  induction ms generalizing c k stage with
  | nil => exact ⟨rfl, h⟩
  | cons m ms ih =>
    obtain ⟨hresult, hmirrors⟩ := h.deliver stage m
    unfold Connection.deliverAll
    rcases hc : c.deliver stage m with ⟨e | stage', c'⟩
    all_goals
      rcases hk : k.deliver stage m with ⟨r, k'⟩
      rw [hc, hk] at hresult hmirrors
      obtain rfl := hresult
    · exact ⟨rfl, hmirrors⟩
    · exact ih hmirrors stage'

theorem takeHandshakes (h : c.Mirrors k) (stage : Stage) (r : Record) :
    Echoes (c.takeHandshakes stage r) (k.takeHandshakes stage r) := by
  unfold Connection.takeHandshakes
  rw [h.handshakes]
  rcases c.handshakes.push r with ⟨e | n, j⟩
  · exact ⟨rfl, h.config, h.session, h.stage, rfl, h.alerts⟩
  · have hjoined : ({ c with handshakes := { j with ready := [] } } : Connection).Mirrors
        { k with handshakes := { j with ready := [] } } :=
      ⟨h.config, h.session, h.stage, rfl, h.alerts⟩
    exact hjoined.deliverAll stage j.ready

theorem takeAlerts (h : c.Mirrors k) (stage : Stage) (r : Record) :
    Echoes (c.takeAlerts stage r) (k.takeAlerts stage r) := by
  obtain ⟨hresult, hsession⟩ :=
    Step.closedTalk_parallel.receiveAlerts (c.alerts.push r).2.ready h.session
  unfold Connection.takeAlerts
  rw [h.alerts]
  refine ⟨congrArg (Except.map fun _ => stage) hresult, ?_⟩
  exact ⟨h.config, hsession, h.stage, h.handshakes, rfl⟩

theorem takeMessage (h : c.Mirrors k) (stage : Stage) (r : Record) :
    Echoes (c.takeMessage stage r) (k.takeMessage stage r) := by
  unfold Connection.takeMessage
  cases Message.ofRecord r with
  | ok m => exact h.deliver stage m
  | error e => exact ⟨rfl, h⟩

/-- What was in a record means the same to both. -/
theorem takeOpened (h : c.Mirrors k) (stage : Stage) (r : Record) :
    Echoes (c.takeOpened stage r) (k.takeOpened stage r) := by
  unfold Connection.takeOpened
  rw [h.handshakes]
  split
  · have haborted := (Step.closedTalk_parallel.abort .unexpectedMessage h.session).2
    exact ⟨rfl, h.config, haborted, h.stage, rfl, h.alerts⟩
  · split
    · exact h.takeHandshakes stage r
    · split
      · exact h.takeAlerts stage r
      · split
        · exact h.takeMessage stage r
        · have hdropped := h.session.happened (e := .notice (.unknownDropped r.typ)) rfl
          exact ⟨rfl, h.config, hdropped, h.stage, rfl, h.alerts⟩

theorem fail (h : c.Mirrors k) (e : TlsError) : (c.fail e).Mirrors (k.fail e) := by
  have haborted := (Step.closedTalk_parallel.abort e.alert h.session).2
  exact ⟨h.config, haborted, rfl, h.handshakes, h.alerts⟩

end Mirrors

/-- Outcomes that cannot be told apart come to the same. -/
theorem Echoes.upshot {x y : Except TlsError Stage × Connection} (h : Echoes x y) :
    (upshot x).Mirrors (upshot y) := by
  obtain ⟨hresult, hmirrors⟩ := h
  rcases x with ⟨e | stage, c⟩
  all_goals
    rcases y with ⟨r, k⟩
    obtain rfl := hresult
  · exact hmirrors.fail e
  · exact hmirrors.with_stage _

namespace Mirrors

variable {c k : Connection}

/-! ## Calls -/

theorem transportFailed (h : c.Mirrors k) (e : IoError) :
    (c.transportFailed e).Mirrors (k.transportFailed e) := by
  have hlost {s t : Session} (hst : s.Mirrors t) : s.loseTransport.Mirrors t.loseTransport :=
    (hst.outgoing_of fun _ => {}).behave fun m => { m with status := .closed }
  unfold Connection.transportFailed
  rw [h.stage]
  split
  · exact h
  · split
    · exact ⟨h.config, hlost (h.session.happened rfl), rfl, h.handshakes, h.alerts⟩
    · exact ⟨h.config, hlost h.session, rfl, h.handshakes, h.alerts⟩

theorem write (h : c.Mirrors k) (bs : Bytes) : Echoes (c.write bs) (k.write bs) := by
  obtain ⟨hresult, hsession⟩ := Step.closedTalk_parallel.write bs h.session
  exact ⟨congrArg (Except.mapError TlsError.toIo) hresult, h.with_session hsession⟩

theorem read (h : c.Mirrors k) (n : Nat) : Echoes (c.read n) (k.read n) := by
  have hresult : (k.session.read n).1 = (c.session.read n).1 := by
    unfold Session.read
    rw [h.session.incoming, h.session.closeReceived, h.session.status]
  have hsession := h.session.behave fun m => { m with incoming := (m.incoming.read n).2 }
  exact ⟨hresult, h.with_session hsession⟩

theorem close (h : c.Mirrors k) : c.close.Mirrors k.close :=
  h.with_session (Step.closedTalk_parallel.sendClose h.session).2

end Mirrors

end TlsClient.Connection
