import TlsClient.Proofs.Connection.Completing
import TlsClient.Proofs.Connection.Encounters
import TlsClient.Proofs.Connection.Keying
import TlsClient.Proofs.Connection.Lossless
import TlsClient.Proofs.Stage.External

/-!
# A client makes no mistakes

Under a configuration that was built nothing goes wrong that is not due to the server, the transport, the random
bytes or the user: no exchange fails to start, none lacks a key or parameters, the keys are changed when they are
prepared, no record is lost, and no error speaks of a handshake that was left incomplete (`blameless`).
-/

namespace TlsClient

open Deeds (handled)
open Relation (ReflTransGen)

/-! ## Protection that is prepared -/

namespace Stage

variable {c : Config} {stage stage' : Stage} {m : Message} {act : Act} {src src' : RandomSource}

/-- How far the protection of what is received has come at a stage. -/
def receivingPhase : Stage → Phase
  | keyChange .. => .prepared
  | finished .. | traffic => .active
  | _ => .none

/-- A message that is taken in moves the protection on as its stages say. -/
theorem Takes.receivingPhase {d : Direction} (h : stage.Takes c src m act stage' src')
    (hd : d.phase = stage.receivingPhase) : (act.receiving d).phase = stage'.receivingPhase := by
  cases h with
  | hello =>
    rw [afterHello]
    split <;> exact hd
  | certificate => split <;> exact hd
  | reply hanswers => rfl
  | keyChange => rfl
  | params | request | finished | data => exact hd

/-- The keys can always be put in place, and they are put to use when they are prepared. -/
theorem changeKeys_prepared (secrets : Secrets) (s : Session) : ∃ sending receiving,
    secrets.sending = .ok sending ∧ secrets.receiving = .ok receiving ∧
      ((s.prepareKeys sending receiving).send .changeCipherSpec).layer.sending.phase = .prepared ∧
      (changeKeys secrets).run s = (.ok (),
        ((s.prepareKeys sending receiving).send .changeCipherSpec).startSending.note
          (.progress .clientChangeCipherSpecSent)) := by
  obtain ⟨sending, hsend⟩ := secrets.sending_ok
  obtain ⟨receiving, hreceive⟩ := secrets.receiving_ok
  have hsaid := Session.send_idle (s := s.prepareKeys sending receiving) ⟨rfl, rfl⟩ .changeCipherSpec
  exact ⟨sending, receiving, hsend, hreceive, by rw [hsaid.layer]; rfl, changeKeys_eq s hsend hreceive⟩

end Stage

theorem Direction.unprotect_phase (d : Direction) (wire : Record) : (d.unprotect wire).2.phase = d.phase := by
  unfold unprotect
  split
  · rfl
  · split <;> rfl

theorem Session.Opens.phase {s s' : Session} {r : Record} (h : s.Opens r s') :
    s'.layer.receiving.phase = s.layer.receiving.phase := by
  obtain ⟨wire, d, hopens, rfl⟩ := h
  have hphase := s.layer.receiving.unprotect_phase wire
  rw [hopens] at hphase
  exact hphase

theorem HandshakeJoiner.Waits.joined {j : HandshakeJoiner} {m : Message} {rest : List Message}
    (h : j.Waits) (hready : j.ready = m :: rest) (htyp : m.body.typ = .handshake) : ∃ v, m.Joined v := by
  rcases h with hjoined | ⟨m', hm', hother, -⟩
  · exact hjoined m (hready ▸ List.mem_cons_self)
  · obtain ⟨rfl, -⟩ := List.cons.inj (hready.symm.trans hm')
    exact absurd htyp hother

namespace Connection

variable {o : Origin} {hello : ClientHello} {c c' c₀ : Connection} {x : Encounter}

/-- As long as a connection has not failed, the protection of what it receives has come as far as its stage
says. -/
def Poised (c : Connection) : Prop :=
  ∀ stage, c.stage = .ok stage → c.session.layer.receiving.phase = stage.receivingPhase

theorem Poised.step (hsound : c.Sound o) (hmove : Moves c c') (h : c.Poised) : c'.Poised := by
  intro stage' hstage'
  cases hmove with
  | talks hconfig hstage hjoin ht =>
    rw [ht.receiving]
    exact h _ (hstage ▸ hstage')
  | hears hok hconfig hstage hjoin hr hopen ht =>
    rw [ht.receiving, hopen.phase]
    exact h _ (hstage ▸ hstage')
  | opens hok hready hconfig hstage hopen hjoin =>
    rw [hopen.phase]
    exact h _ (hstage ▸ hstage')
  | @takes stage _ m rest hok hready hm hconfig hstage hjoin hrun =>
    rw [hstage] at hstage'
    cases hstage'
    obtain ⟨act, ht, hact⟩ := @Stage.handle_ok c.config stage stage' m
      (c.session.happened (.handled m)) c'.session (hsound.phase.idle hok) hrun
    rw [performed_receiving hact]
    exact ht.receivingPhase (h stage hok)
  | declines hok hready hm hconfig hstage hjoin ht =>
    rw [ht.receiving]
    exact h _ (hstage ▸ hstage')
  | refuses hok hready hconfig hstage => rw [hstage] at hstage'; cases hstage'
  | fails hok hconfig hstage => rw [hstage] at hstage'; cases hstage'

theorem Starts.poised (h : c.Starts o hello) : c.Poised := by
  intro stage hstage
  obtain rfl : o.stage = stage := Except.ok.inj (h.stage.symm.trans hstage)
  rw [h.layer, h.waitsFor]
  rfl

theorem Starts.poised_moves (h : c.Starts o hello) (hmoves : ReflTransGen Moves c c') : c'.Poised := by
  induction hmoves with
  | refl => exact h.poised
  | tail hbefore hmove ih => exact ih.step (h.sound.moves hbefore) hmove

/-! ## Encounters -/

/-- A message meets a stage that is provided for it. -/
theorem Starts.provided (h : c₀.Starts o hello) (hadmitted : o.config.Admitted)
    (hmoves : ReflTransGen Moves c₀ c) (hmeets : c.Meets x) : x.stage.Provided o.config x.message := by
  have hsound := h.sound.moves hmoves
  have hrelies : x.stage.Relies o.config hello (handled c.session.deeds) := by
    apply (hsound.course.onCourse _ hmeets.stage).relies
    rw [h.waitsFor]
    exact .serverHello
  obtain ⟨rest, hready⟩ := hmeets.ready
  exact hrelies.provided hadmitted ((hsound.waits _ hmeets.stage).joined hready)

/-- No error of a connection that has started is due to the client itself. -/
theorem Starts.external (h : c₀.Starts o hello) (hadmitted : o.config.Admitted) (calls : List Call)
    {e : TlsError} (he : (c₀.run calls).stage = .error e) : ¬ e.Internal := by
  have haccounts := encounters_account h.drained h.stage calls
  intro hinternal
  obtain ⟨x, hx, hfails⟩ := haccounts.blamed e he hinternal
  obtain ⟨k, hmoves, hmeets⟩ := haccounts.met x hx
  rw [h.config] at hfails
  exact (h.provided hadmitted hmoves hmeets).external _ e hfails hinternal

/-! ## Every run -/

/-- What a client does not lack in a run, and what therefore does not happen. -/
structure Blameless (config : Config) (c : Connection) (calls : List Call) : Prop where
  /-- The encounters are the messages that the handshake is given, one after another. -/
  encountered : (c.encounters calls).map Encounter.message = handled (c.run calls).session.deeds
  /-- Wherever a message is handled, every exchange that may be chosen can be started, the server's parameters
  are given to an exchange that takes some, and neither taking them in nor the end of the exchange lacks a key
  or parameters. -/
  provided : ∀ x ∈ c.encounters calls, x.stage.Provided config x.message
  /-- So nothing that is handled fails by a mistake of the client's, -/
  handled : ∀ x ∈ c.encounters calls, ∀ e, (x.outcome config).1 = .error e → ¬ e.Internal
  /-- nor does what has arrived, or anything before. -/
  failed : ∀ e, (c.run calls).stage = .error e ∨ (c.run calls).process.1 = .error e → ¬ e.Internal
  /-- The user is not told of such a mistake either when writing is refused. -/
  written : ∀ bs e, ((c.run calls).session.write bs).1 = .error e → ¬ e.Internal
  /-- Where the signal of the server's key change is taken in, what is received is prepared to be opened. -/
  receiving : ∀ x ∈ c.encounters calls, ∀ secrets transcript, x.stage = .keyChange secrets transcript →
    x.session.layer.receiving.phase = .prepared
  /-- The client's keys can be put in place in any session, and what is sent is prepared when they are used. -/
  sending : ∀ (secrets : Secrets) (s : Session), ∃ sending receiving,
    secrets.sending = .ok sending ∧ secrets.receiving = .ok receiving ∧
      ((s.prepareKeys sending receiving).send .changeCipherSpec).layer.sending.phase = .prepared ∧
      (Stage.changeKeys secrets).run s = (.ok (),
        ((s.prepareKeys sending receiving).send .changeCipherSpec).startSending.note
          (.progress .clientChangeCipherSpecSent))
  /-- No record has been dropped because it could not be protected, and there is a number for the next. -/
  lossless : (∀ why, .undeliverable why ∉ (c.run calls).session.notices) ∧
    (c.run calls).session.layer.exhausted = false

/-- Under a configuration that was built, a client makes no mistakes in any run that leaves numbers for its
records, and none at its start. -/
theorem blameless {b : ConfigBuilder} {config : Config} (hbuild : b.build = .ok config) (time : Int)
    (random : RandomSource) :
    (∀ e, Connection.start config time random = .error e → ¬ e.Internal) ∧
      ∀ c, Connection.start config time random = .ok c → ∀ calls,
        (c.run calls).session.InBounds → c.Blameless config calls := by
  have hadmitted := ConfigBuilder.build_admits hbuild
  refine ⟨fun e he => ?_, fun c h calls hbounds => ?_⟩
  · unfold Connection.start at he
    split at he
    · cases he
    · next e' s hrun =>
      cases he
      exact Stage.external_start config time.toNat { random } e (by rw [hrun])
  · obtain ⟨o, hello, hstart, rfl⟩ := start_starts h
    have haccounts := encounters_account hstart.drained hstart.stage calls
    have hprovided (x : Encounter) (hx : x ∈ c.encounters calls) :
        x.stage.Provided o.config x.message := by
      obtain ⟨k, hmoves, hmeets⟩ := haccounts.met x hx
      exact hstart.provided hadmitted hmoves hmeets
    constructor
    case encountered => rw [run_handled, hstart.deeds, Message.handled_log, List.nil_append]
    case provided => exact hprovided
    case handled => exact fun x hx e he => (hprovided x hx).external x.session e he
    case failed =>
      rintro e (he | he)
      · exact hstart.external hadmitted calls he
      · have hrun : c.run (calls ++ [.process]) = (c.run calls).process.2 := run_append c calls [.process]
        exact hstart.external hadmitted (calls ++ [.process]) (hrun ▸ process_error_iff.mp he)
    case written =>
      intro bs e he
      unfold Session.write at he
      split at he <;> cases he
      rintro ⟨⟩
    case receiving =>
      intro x hx secrets transcript hstage
      obtain ⟨k, hmoves, hmeets⟩ := haccounts.met x hx
      have hphase := hstart.poised_moves hmoves x.stage hmeets.stage
      rw [hmeets.session]
      rw [hstage] at hphase
      exact hphase
    case sending => exact Stage.changeKeys_prepared
    case lossless => exact ⟨run_lossless h calls, run_unexhausted h calls hbounds⟩

/-- A handshake up to the server's key change, in which four messages are handled. -/
theorem blameless_closed : ∃ c, ConfigBuilder.acquainted.build = .ok .acquainted ∧
    Connection.start .acquainted 0 (.seeded [] 0 none) = .ok c ∧
    (c.encounters Call.acquaint).length = 4 ∧ (c.run Call.acquaint).session.InBounds ∧
    c.Blameless .acquainted Call.acquaint := by
  have hbuild : ConfigBuilder.acquainted.build = .ok .acquainted := rfl
  obtain ⟨c, secrets, t, p, hc, -, -, -, -, hroom⟩ := run_acquainted
  have hcount : (c.encounters Call.acquaint).length = 4 := by
    apply of_start hc
    decide +kernel
  have hbounds : (c.run Call.acquaint).session.InBounds :=
    Nat.lt_of_lt_of_le (Nat.lt_add_of_pos_right (by decide)) hroom.enough
  exact ⟨c, hbuild, hc, hcount, hbounds,
    (blameless hbuild 0 (.seeded [] 0 none)).2 c hc Call.acquaint hbounds⟩

end Connection

end TlsClient
