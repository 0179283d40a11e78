import TlsClient.Proofs.Connection.Occurrences
import TlsClient.Proofs.Connection.Order
import TlsClient.Proofs.Connection.Outcome
import TlsClient.Proofs.Connection.Telling

/-!
# Records without effect

Some records are ignored: those of an unknown type, those that hold only whole warnings or nothing at all of
alerts, and after the handshake those without data.  Between two messages they leave no trace: with one of them
more or less, everything that a run shows afterwards is the same (`ignorable_transparent`).
-/

namespace TlsClient

/-! ## Warnings -/

/-- Alerts that are harmless are taken in to the last, and only remembered. -/
theorem Session.receiveAlerts_harmless {s : Session} (hopen : s.closeReceived = false) {as : List Alert}
    (has : ∀ a ∈ as, a.harmless = true) : ∃ s', s.receiveAlerts as = (.ok (), s') ∧ s.Mirrors s' := by
  induction as generalizing s with
  | nil => exact ⟨s, rfl, .refl s⟩
  | cons a as ih =>
    have hnoted : s.Mirrors (s.note (.warningReceived a)) := .remembers s rfl
    obtain ⟨s', hrest, hmirrors⟩ := ih (s := s.note (.warningReceived a)) hopen
      fun b hb => has b (List.mem_cons_of_mem a hb)
    refine ⟨s', ?_, hnoted.trans hmirrors⟩
    rw [receiveAlerts, receiveAlert_harmless (has a List.mem_cons_self)]
    show (if s.closeReceived = true then _ else _) = _
    rw [hopen]
    exact hrest

namespace Connection

variable {c : Connection} {stage : Stage} {r : Record}

/-! ## Between two messages -/

/-- A connection that goes on and has no part of a handshake message or of an alert. -/
structure BetweenMessages (c : Connection) : Prop where
  going : ∃ stage, c.stage = .ok stage
  opened : c.session.closeReceived = false
  handshakes : c.handshakes.isEmpty = true
  alerts : c.alerts.isEmpty = true

/-- A record that a connection ignores: one of an unknown type, one of whole warnings, if any at all, or, when
the handshake is over, one without data. -/
inductive Ignores (c : Connection) (r : Record) : Prop
  | unknown (h : r.typ ∉ [.changeCipherSpec, .alert, .handshake, .applicationData])
  | warnings (htyp : r.typ = .alert) (as : List Alert) (hwhole : AlertJoiner.pairs r.payload = (as, []))
    (h : ∀ a ∈ as, a.level = .warning ∧ a.description ≠ .closeNotify)
  | noData (htyp : r.typ = .applicationData) (hempty : r.payload = []) (hdone : c.progress = .done)

/-- No alert waits between two records. -/
theorem takeOpened_ready (h : c.alerts.ready = []) (stage : Stage) (r : Record) :
    (c.takeOpened stage r).2.alerts.ready = [] := by
  unfold takeOpened
  split
  · exact h
  · split
    · unfold takeHandshakes
      rcases c.handshakes.push r with ⟨e | n, j⟩
      · exact h
      · obtain ⟨s, hs⟩ := deliverAll_session
          { c with handshakes := { j with ready := [] } } stage j.ready
        dsimp only
        rw [hs]
        exact h
    · split
      · rfl
      · split
        · unfold takeMessage
          cases Message.ofRecord r with
          | error e => exact h
          | ok m =>
            obtain ⟨s, hs⟩ := deliver_session c stage m
            dsimp only
            rw [hs]
            exact h
        · exact h

theorem occur_ready (h : c.alerts.ready = []) (o : Occurrence) : (c.occur o).alerts.ready = [] := by
  cases o with
  | opened r =>
    unfold occur
    cases c.stage with
    | error e => exact h
    | ok stage =>
      dsimp only
      split
      · exact h
      · have htaken := takeOpened_ready h stage r
        rcases htake : c.takeOpened stage r with ⟨e | stage', c'⟩
        all_goals
          rw [htake] at htaken
          exact htaken
  | lost e =>
    show (c.transportFailed e).alerts.ready = []
    unfold transportFailed
    split
    · exact h
    · split <;> exact h
  | _ => exact h

theorem after_ready (h : c.alerts.ready = []) (os : List Occurrence) : (c.after os).alerts.ready = [] := by
  induction os generalizing c with
  | nil => exact h
  | cons o os ih => exact ih (occur_ready h o)

/-! ## Ignoring a record -/

/-- Taking in a record that is ignored leaves no trace. -/
theorem Ignores.takeOpened (h : c.Ignores r) (hbetween : c.BetweenMessages) (hready : c.alerts.ready = [])
    (hok : c.stage = .ok stage) : ∃ c', c.takeOpened stage r = (.ok stage, c') ∧ c.Mirrors c' := by
  have hinside : ¬ (!c.handshakes.isEmpty && r.typ != .handshake) = true := by
    simp [hbetween.handshakes]
  cases h with
  | unknown h =>
    simp only [List.mem_cons, List.not_mem_nil, or_false, not_or] at h
    obtain ⟨hkeyChange, halert, hhandshake, hdata⟩ := h
    have hnoted : c.session.Mirrors (c.session.note (.unknownDropped r.typ)) := .remembers _ rfl
    rw [Connection.takeOpened, if_neg hinside, if_neg hhandshake, if_neg halert,
      if_neg (not_or.mpr ⟨hkeyChange, hdata⟩)]
    exact ⟨_, rfl, (Mirrors.refl c).with_session hnoted⟩
  | warnings htyp as hwhole h =>
    have hbuffer : c.alerts.buffer = [] := List.isEmpty_iff.mp hbetween.alerts
    have hpush : (c.alerts.push r).2 = { ready := as, buffer := [] } := by
      rw [AlertJoiner.push, hbuffer, List.nil_append, hwhole, hready]
      rfl
    have hharmless : ∀ a ∈ as, a.harmless = true := fun a ha => by simp [Alert.harmless, h a ha]
    obtain ⟨s, hreceive, hmirrors⟩ := Session.receiveAlerts_harmless hbetween.opened hharmless
    have halerts : c.alerts = {} := by
      rw [← hready, ← hbuffer]
    rw [Connection.takeOpened, if_neg hinside, if_neg (by rw [htyp]; decide), if_pos htyp, takeAlerts]
    dsimp only
    rw [hpush, hreceive]
    exact ⟨_, rfl, rfl, hmirrors, rfl, rfl, halerts.symm⟩
  | noData htyp hempty hdone =>
    obtain rfl : stage = .traffic := by
      rw [progress, hok] at hdone
      exact progress_done hdone
    obtain ⟨m, htake⟩ := takeOpened_data (c := c) (r := r) ⟨rfl, htyp, hbetween.handshakes⟩
    have hhandled : c.session.Mirrors (c.session.happened (.handled m)) := .remembers _ rfl
    rw [htake, hempty]
    exact ⟨_, rfl, (Mirrors.refl c).with_session hhandled⟩

/-- Between two messages a record that is ignored leaves no trace. -/
theorem Ignores.occur (h : c.Ignores r) (hbetween : c.BetweenMessages) (hready : c.alerts.ready = []) :
    c.Mirrors (c.occur (.opened r)) := by
  obtain ⟨stage, hok⟩ := hbetween.going
  obtain ⟨c', htake, hmirrors⟩ := h.takeOpened hbetween hready hok
  rw [occur_opened hok hbetween.opened, htake]
  exact ⟨hmirrors.config, hmirrors.session, hok.symm, hmirrors.handshakes, hmirrors.alerts⟩

/-- A record that is ignored may occur or not: between two messages of any run one more makes no difference to
what is seen of all that occurs afterwards, and in the end no difference at all. -/
theorem ignorable_transparent {config : Config} {time : Int} {random : RandomSource}
    (h : Connection.start config time random = .ok c) {calls : List Call} {before later : List Occurrence}
    (hcalls : c.occurrences calls = before ++ later) (hbetween : (c.after before).BetweenMessages)
    (hignores : (c.after before).Ignores r) :
    (c.after (before ++ [.opened r])).appearances later = (c.after before).appearances later ∧
      ∀ calls', c.occurrences calls' = before ++ .opened r :: later →
        (c.run calls).Mirrors (c.run calls') ∧ (c.run calls').view = (c.run calls).view ∧
          (c.run calls').error? = (c.run calls).error? := by
  have hready : (c.after before).alerts.ready = [] := after_ready (by rw [start_alerts h]) before
  have hsame := hignores.occur hbetween hready
  constructor
  · rw [after_append]
    exact hsame.appearances later
  · intro calls' hcalls'
    have hrun := run_mirrors c calls
    have hrun' := run_mirrors c calls'
    rw [hcalls, after_append] at hrun
    rw [hcalls', after_append] at hrun'
    have hboth := (hrun.symm.trans (hsame.after later)).trans hrun'
    exact ⟨hboth, hboth.view, hboth.error?⟩

/-- Between its hello and its certificate the server sends a record of no known type, or does not. -/
theorem ignorable_transparent_closed : ∃ c, ∃ calls calls' : List Call, ∃ before later : List Occurrence,
    Connection.start .acquainted 0 (.seeded [] 0 none) = .ok c ∧
    c.occurrences calls = before ++ later ∧
    c.occurrences calls' = before ++ .opened ⟨⟨99⟩, .tls1, [1]⟩ :: later ∧
    (c.after before).BetweenMessages ∧ (c.after before).Ignores ⟨⟨99⟩, .tls1, [1]⟩ ∧
    (c.run calls).progress = .serverChangeCipherSpecReceived ∧
    (c.run calls').view = (c.run calls).view := by
  obtain ⟨c, hc⟩ := start_acquainted
  set front := Record.acquaintance.take 1 with hfront
  set back := Record.acquaintance.drop 1 with hback
  set before := front.map Occurrence.opened with hbefore
  set later := back.map Occurrence.opened with hlater
  set calls : List Call := [.readTls { deliveries := [.data ((front ++ back).flatMap Record.encode)] },
    .process] with hcalls
  set calls' : List Call := [.readTls { deliveries := [.data
    ((front ++ ⟨⟨99⟩, .tls1, [1]⟩ :: back).flatMap Record.encode)] }, .process] with hcalls'
  obtain ⟨hone, hother, hok, hopen, hhandshakes, halerts, hprogress⟩ :
      c.occurrences calls = before ++ later ∧
      c.occurrences calls' = before ++ .opened ⟨⟨99⟩, .tls1, [1]⟩ :: later ∧
      (c.after before).stage.isOk = true ∧ (c.after before).session.closeReceived = false ∧
      (c.after before).handshakes.isEmpty = true ∧ (c.after before).alerts.isEmpty = true ∧
      (c.run calls).progress = .serverChangeCipherSpecReceived := by
    apply of_start hc
    decide +kernel
  have hgoing : ∃ stage, (c.after before).stage = .ok stage := by
    cases hstage : (c.after before).stage with
    | ok stage => exact ⟨stage, rfl⟩
    | error e => simp [hstage, Except.isOk, Except.toBool] at hok
  have hbetween : (c.after before).BetweenMessages := ⟨hgoing, hopen, hhandshakes, halerts⟩
  have hignores : (c.after before).Ignores ⟨⟨99⟩, .tls1, [1]⟩ := .unknown (by decide)
  obtain ⟨-, hruns⟩ := ignorable_transparent hc hone hbetween hignores
  exact ⟨c, calls, calls', before, later, hc, hone, hother, hbetween, hignores, hprogress,
    (hruns calls' hother).2.1⟩

end Connection

end TlsClient
