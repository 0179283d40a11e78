import TlsClient.Proofs.Connection.Completing

/-!
# Alerts after the key change

An alert is made of two bytes, of one record or of two, and nobody tells the joiner when the keys change.
What crosses the key change is one byte at most, the one that is left over of the alerts before it
(`handsOn_stray`).  Where none is left over, the alerts that are handed on after the key change are made
of the bytes of records that it took keys to open, and of no others (`alerts_parted`).
-/

namespace TlsClient

open Relation (ReflTransGen)

/-- What is left over of the alerts in the records that it took no keys to open. -/
def Deeds.stray (es : List Event) : Bytes := (AlertJoiner.pairs (alertBytesIn false es)).2

/-- What waits for the rest of its alert came in with keys, or is what was left over without. -/
theorem Session.Keyed.half {s : Session} {stage : Stage} (h : s.Keyed stage) : Deeds.half s.deeds
    = (AlertJoiner.pairs (Deeds.stray s.deeds ++ Deeds.alertBytesIn true s.deeds)).2 := by
  rw [Deeds.half, h.alertBytes, AlertJoiner.left_append]
  rfl

namespace Connection

variable {c c' c₀ : Connection} {stage : Stage} {o : Origin} {hello : ClientHello}

/-- The next record of alerts hands on the alerts that it completes, where these bytes came before its own:
it takes keys to open it, and it does not come inside of a handshake message. -/
def HandsOn (c : Connection) (stage : Stage) (heard : Bytes) : Prop :=
  ∀ wire r d, c.session.layer.receiving.unprotect wire = (.ok r, d) → r.typ = .alert →
    c.handshakes.isEmpty = true →
    ∃ as, (AlertJoiner.pairs (heard ++ r.payload)).1 = (AlertJoiner.pairs heard).1 ++ as ∧
      c.takeRecord stage wire =
        (((c.unsealed r d).session.receiveAlerts as).1.map fun () => stage,
          { c with
            session := ((c.unsealed r d).session.receiveAlerts as).2
            alerts := { buffer := (AlertJoiner.pairs (heard ++ r.payload)).2 } })

theorem takeOpened_alert {r : Record} (hr : r.typ = .alert) (hempty : c.handshakes.isEmpty = true)
    (stage : Stage) : c.takeOpened stage r = c.takeAlerts stage r := by
  rw [takeOpened, if_neg (by simp [hempty]), if_neg (by rw [hr]; decide), if_pos hr]

/-- After the key change what is left over of the alerts before it counts as the first alert byte. -/
theorem handsOn_stray (hstart : c₀.Starts o hello) (h : c₀.Moment c) (hok : c.stage = .ok stage)
    (hopen : c.session.closeReceived = false) (hactive : c.session.layer.receiving.isActive = true) :
    c.HandsOn stage (Deeds.stray c.session.deeds ++ Deeds.alertBytesIn true c.session.deeds) := by
  intro wire r d hunprotect hr hempty
  have halerts : (c.unsealed r d).alerts = _ := (h.heeds hok hopen).alerts
  rw [(h.keyed hstart stage hok).half] at halerts
  set heard := Deeds.stray c.session.deeds ++ Deeds.alertBytesIn true c.session.deeds with hheard
  have htake : c.takeRecord stage wire = (c.unsealed r d).takeOpened stage r := by
    rw [takeRecord_opened hunprotect, hactive]
    rfl
  refine ⟨_, by rw [AlertJoiner.pairs_append], ?_⟩
  rw [htake, takeOpened_alert (c := c.unsealed r d) hr hempty, takeAlerts_eq halerts,
    AlertJoiner.left_append heard r.payload]
  rfl

/-- If the alerts in the records before the key change were whole, then the alerts that are handed on after
it are what the records that it took keys to open are made of, one after another: nothing else decides what
the server is understood to say. -/
theorem alerts_parted {config : Config} {time : Int} {random : RandomSource}
    (h : Connection.start config time random = .ok c) {calls : List Call}
    (hpasses : ReflTransGen Passes (c.run calls) c') (hok : c'.stage = .ok stage)
    (hopen : c'.session.closeReceived = false) (hactive : c'.session.layer.receiving.isActive = true)
    (heven : Even (Deeds.alertBytesIn false c'.session.deeds).length) :
    c'.HandsOn stage (Deeds.alertBytesIn true c'.session.deeds) := by
  obtain ⟨o, hello, hstart, -⟩ := start_starts h
  have hmoment := (moment_run h calls).later hstart hpasses
  have hstray : Deeds.stray c'.session.deeds = [] := AlertJoiner.left_eq_nil heven
  have hhandsOn := handsOn_stray hstart hmoment hok hopen hactive
  rw [hstray] at hhandsOn
  exact hhandsOn

/-- Before its key change the server sends a warning, which is a whole alert. -/
theorem alerts_parted_closed : ∃ c stage, Connection.start .acquainted 0 (.seeded [] 0 none) = .ok c ∧
    (c.run Call.acquaint).stage = .ok stage ∧
    (c.run Call.acquaint).session.closeReceived = false ∧
    (c.run Call.acquaint).session.layer.receiving.isActive = true ∧
    (Deeds.alertBytesIn false (c.run Call.acquaint).session.deeds).length = 2 ∧
    (c.run Call.acquaint).HandsOn stage (Deeds.alertBytesIn true (c.run Call.acquaint).session.deeds) := by
  obtain ⟨c, secrets, t, p, hc, hlistens, -⟩ := run_acquainted
  have hactive : (c.run Call.acquaint).session.layer.receiving.isActive = true := by
    rw [hlistens.receiving]
    rfl
  have hlength : (Deeds.alertBytesIn false (c.run Call.acquaint).session.deeds).length = 2 := by
    apply of_start hc
    decide +kernel
  exact ⟨c, .finished secrets t, hc, hlistens.stage, hlistens.opened, hactive, hlength,
    alerts_parted hc .refl hlistens.stage hlistens.opened hactive (hlength ▸ even_two)⟩

end Connection

end TlsClient
