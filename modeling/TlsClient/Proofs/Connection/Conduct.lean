import TlsClient.Proofs.Connection.Soundness
import TlsClient.Proofs.Stage.Openness

/-!
# How a connection conducts itself

While it heeds the server, a connection has taken in no alert that is more than a warning (`Heeds`).  What
it takes in changes its dialogue and then it still heeds the server, or it was told in order that nothing
more will come, or it falls: by an error that it answers with a fatal alert, or by one that needs no
answer (`Conducts`).  That is so for a message, for a record, and for all that has arrived.
-/

namespace TlsClient

open Deeds (handled)
open Relation (ReflTransGen)
open Session (Speaks Talks)
open Dialogue (Reacts Serves Turn)

/-! ## Handling a message -/

/-- The signal of the key change may be said, and starts the numbers anew. -/
theorem Session.speaks_changeKeys {s s' : Session} {p : Protection} {receiving : Direction}
    (hs : s.status ≠ .closed) (hdeeds : s'.deeds = s.deeds ++ Message.changeCipherSpec.log)
    (hlayer : s'.layer = { sending := ⟨some p, 0, .active⟩, receiving })
    (hrest : { s' with outgoing := s.outgoing, history := s.history, layer := s.layer } = s) :
    Speaks Reacts s s' := by
  have hsent : s'.sent = s.sent ++ [(Record.keyChange, Record.keyChange)] := by
    rw [sent_eq, sent_eq, hdeeds, Deeds.records_append, Connection.records_keyChange]
  have hstatus : s'.status = s.status := (congrArg Session.status hrest :)
  have hdialogue : s'.dialogue = { s.dialogue with said := s.dialogue.said ++ [Record.keyChange] } := by
    rw [dialogue, said, hsent, List.map_append, hstatus,
      show s'.traffic = s.traffic from (congrArg Session.traffic hrest :),
      show s'.early = s.early from (congrArg Session.early hrest :)]
    rfl
  have hfront : s.sent <+: s'.sent := hsent ▸ List.prefix_append _ _
  refine ⟨Nat.le_of_eq (by rw [hstatus]), hfront, fun _ => ?_,
    fun _ ha => ha.of_eq hfront hstatus, fun _ _ => ?_⟩
  · exact ⟨fun _ => by rw [hlayer]; rfl, by rw [hlayer]; exact Nat.zero_le _,
      fun _ => by rw [hlayer]; exact Nat.zero_le _⟩
  · rw [hdialogue]
    exact .single (.sends _ hs fun r hr => .inr (by rw [List.mem_singleton.mp hr]; rfl))

namespace Step

/-- What handling a message does to a session: no alert is heard by that. -/
structure Reaction (s s' : Session) : Prop where
  speaks : Speaks Reacts s s'
  heard : s'.heard = s.heard

/-- All ways in which the handshake works on a session are reactions, and keep it alive unless it gives
up. -/
theorem law_reaction : Law (fun s => s.status ≠ .closed) Reaction where
  refl s := ⟨.refl s, rfl⟩
  trans h h' := ⟨h.speaks.trans h'.speaks, h'.heard.trans h.heard⟩
  quiet hs h := ⟨⟨.quiet h, Session.heard_of_deeds h.deeds⟩, h.status ▸ hs⟩
  send m hs :=
    have h := (Session.utters_send _ (.ofHandshake m)).toProceeds
    ⟨⟨Session.speaks_send hs rfl, h.heard⟩, h.alive hs⟩
  changeKeys hs hdeeds hlayer hrest :=
    ⟨⟨Session.speaks_changeKeys hs hdeeds hlayer hrest, Session.heard_append hdeeds fun e he => by
      rcases List.mem_cons.mp he with rfl | he
      · rfl
      · obtain ⟨r, -, rfl⟩ := List.mem_map.mp he
        rfl⟩,
      fun hc => hs ((congrArg Session.status hrest :).symm.trans hc)⟩
  startTraffic hs :=
    have h := (Session.utters_startTraffic _).toProceeds
    ⟨⟨Session.speaks_startTraffic hs, h.heard⟩, h.alive hs⟩
  abort hwhy _ := ⟨Session.speaks_abort _ hwhy, (Session.talks_abort _ _).heard⟩

end Step

/-! ## Errors of records -/

theorem Deframer.pop_error {d d' : Deframer} {e : TlsError} (h : d.pop = (.error e, d')) :
    e = .oversizedRecord ∨ ∃ why, e = .malformed why := by
  unfold pop at h
  split at h
  · cases h
    exact .inr ⟨_, rfl⟩
  · split at h <;> cases h
    · exact .inl rfl
    · exact .inr ⟨_, rfl⟩

theorem Deframer.pop_proper {d d' : Deframer} {e : TlsError} (h : d.pop = (.error e, d')) :
    e.Proper := by
  rcases pop_error h with rfl | ⟨why, rfl⟩ <;> exact fun _ => by rintro ⟨⟩

theorem Protection.unprotect_error {p : Protection} {n : UInt64} {wire : Record} {e : TlsError}
    (h : (p.unprotect n wire).1 = .error e) : e = .cannotDecrypt ∨ e = .oversizedRecord := by
  unfold unprotect at h
  dsimp only at h
  split at h
  · cases h
    exact .inl rfl
  · dsimp only at h
    split at h
    · cases h
      exact .inl rfl
    · split at h <;> cases h
      exact .inr rfl

theorem Direction.unprotect_error {d d' : Direction} {wire : Record} {e : TlsError}
    (h : d.unprotect wire = (.error e, d')) : e = .cannotDecrypt ∨ e = .oversizedRecord := by
  unfold unprotect at h
  split at h
  · cases h
  · split at h
    · cases h
      exact .inl rfl
    · have hresult : (Protection.unprotect? d.protection d.seq wire).1 = .error e :=
        congrArg Prod.fst h
      unfold Protection.unprotect? at hresult
      split at hresult
      · cases hresult
        exact .inl rfl
      · exact Protection.unprotect_error hresult

theorem Direction.unprotect_proper {d d' : Direction} {wire : Record} {e : TlsError}
    (h : d.unprotect wire = (.error e, d')) : e.Proper := by
  rcases unprotect_error h with rfl | rfl <;> exact fun _ => by rintro ⟨⟩

/-! ## Alerts that were taken in -/

/-- An error that is not answered with an alert: the transport failed, or the error is an alert of the
peer's. -/
def TlsError.Unanswered (e : TlsError) (es : List Event) : Prop :=
  (∃ why, e = .transport why) ∨
    ∃ a, Deeds.verdict es = some a ∧ a.Known ∧ e = .alertReceived a.description

theorem TlsError.Proper.answered {e : TlsError} {es : List Event} (h : e.Proper)
    (hes : Deeds.verdict es = none) : ¬ e.Unanswered es := by
  rintro (⟨why, rfl⟩ | ⟨a, ha, -⟩)
  · exact h why rfl
  · rw [hes] at ha
    cases ha

theorem Deeds.verdict_of_heard {s s' : Session} (h : s'.heard = s.heard) :
    verdict s'.deeds = verdict s.deeds :=
  congrArg (fun bs => (AlertJoiner.pairs bs).1.find? fun a : Alert => !a.harmless) h

theorem Deeds.half_of_heard {s s' : Session} (h : s'.heard = s.heard) :
    half s'.deeds = half s.deeds := congrArg (fun bs => (AlertJoiner.pairs bs).2) h

theorem TlsError.unanswered_of_heard {e : TlsError} {s s' : Session} (h : s'.heard = s.heard) :
    e.Unanswered s'.deeds ↔ e.Unanswered s.deeds := by
  rw [Unanswered, Unanswered, Deeds.verdict_of_heard h]

namespace Connection

/-- The peer said in order that nothing more will come: its first alert that is more than a warning is a
close notification, and the messages handled before had led to the end of the handshake. -/
def PeerClosed (c₀ : Connection) (s : Session) : Prop :=
  s.closeReceived = true ∧ ∃ before k r after a, s.deeds = before ++ .opened k r :: after ∧
    c₀.Reaches before .traffic ∧ Deeds.verdict before = none ∧
    Deeds.verdict (before ++ [.opened k r]) = some a ∧ a.Known ∧ a.description = .closeNotify

/-- A connection that can be used and has taken in no alert that is more than a warning. -/
structure Heeds (c : Connection) : Prop where
  alive : c.session.status ≠ .closed
  opened : c.session.closeReceived = false
  alerts : c.alerts = { buffer := Deeds.half c.session.deeds }
  verdict : Deeds.verdict c.session.deeds = none

/-- How a session that is alive falls by an error: the error is answered now or later, or the session is
closed without an answer. -/
inductive Falls (e : TlsError) (s s' : Session) : Prop
  | answered (h : ¬ e.Unanswered s'.deeds) (hs : Speaks Reacts s s')
  | unanswered (h : e.Unanswered s'.deeds) (hclosed : s'.status = .closed)
    (hs : Speaks Dialogue.Hears s s')

/-- What taking messages in comes to: the connection heeds the server as before, or it fails with an
error that it answers. -/
inductive Minds (c : Connection) : Except TlsError Stage × Connection → Prop
  | goes {stage : Stage} {c' : Connection} (hs : Speaks Reacts c.session c'.session) (h : c'.Heeds) :
    Minds c (.ok stage, c')
  | fails {e : TlsError} {c' : Connection} (hs : Speaks Reacts c.session c'.session)
    (h : ¬ e.Unanswered c'.session.deeds) : Minds c (.error e, c')

/-- What taking anything in comes to. -/
inductive Conducts (c₀ c : Connection) : Except TlsError Stage × Connection → Prop
  | goes {stage : Stage} {c' : Connection} (hs : Speaks Serves c.session c'.session) (h : c'.Heeds) :
    Conducts c₀ c (.ok stage, c')
  | leaves {stage : Stage} {c' : Connection} {s : Session} (hs : Speaks Serves c.session s)
    (halive : s.status ≠ .closed) (hlast : Speaks Dialogue.Hears s c'.session)
    (hclosed : c'.session.status = .closed) (h : c₀.PeerClosed c'.session) :
    Conducts c₀ c (.ok stage, c')
  | falls {e : TlsError} {c' : Connection} {s : Session} (hs : Speaks Serves c.session s)
    (halive : s.status ≠ .closed) (h : Falls e s c'.session) : Conducts c₀ c (.error e, c')

variable {c₀ c c' : Connection} {stage : Stage} {x : Except TlsError Stage × Connection}

theorem Heeds.of_heard (h : c.Heeds) (hheard : c'.session.heard = c.session.heard)
    (halerts : c'.alerts = c.alerts) (halive : c'.session.status ≠ .closed)
    (hopened : c'.session.closeReceived = c.session.closeReceived) : c'.Heeds :=
  ⟨halive, hopened.trans h.opened, by rw [halerts, h.alerts, Deeds.half_of_heard hheard],
    (Deeds.verdict_of_heard hheard).trans h.verdict⟩

theorem Minds.after (hs : Speaks Reacts c.session c'.session) (h : c'.Minds x) : c.Minds x := by
  cases h with
  | goes hs' h => exact .goes (hs.trans hs') h
  | fails hs' h => exact .fails (hs.trans hs') h

/-- An error of the connection's own is answered if nothing that is more than a warning was heard. -/
theorem Minds.proper {e : TlsError} (h : c.Heeds) (he : e.Proper)
    (hs : Speaks Reacts c.session c'.session) (hheard : c'.session.heard = c.session.heard) :
    c.Minds (.error e, c') :=
  .fails hs (he.answered ((Deeds.verdict_of_heard hheard).trans h.verdict))

theorem speaks_serves {s s' : Session} (h : Speaks Reacts s s') : Speaks Serves s s' :=
  h.mono fun _ _ => .reacts

theorem Minds.conducts (hc : c.session.status ≠ .closed) (h : c.Minds x) : Conducts c₀ c x := by
  cases h with
  | goes hs h => exact .goes (speaks_serves hs) h
  | fails hs h => exact .falls (.refl _) hc (.answered h hs)

theorem Conducts.after (hs : Speaks Serves c.session c'.session) (h : Conducts c₀ c' x) :
    Conducts c₀ c x := by
  cases h with
  | goes hs' h => exact .goes (hs.trans hs') h
  | leaves hs' halive hlast hclosed h => exact .leaves (hs.trans hs') halive hlast hclosed h
  | falls hs' halive h => exact .falls (hs.trans hs') halive h

/-! ## Taking in messages -/

theorem deliver_minds (h : c.Heeds) (stage : Stage) (m : Message) : c.Minds (c.deliver stage m) := by
  unfold deliver
  split
  · next hm =>
    have hwarn : Session.Proceeds c.session (c.session.sendWarning .noRenegotiation) :=
      (Session.Proceeds.quiet (Session.quiet_note _ _) rfl).trans (Session.utters_send _ _).toProceeds
    exact .goes (Session.speaks_decline h.alive hm.1)
      (h.of_heard hwarn.heard rfl (hwarn.alive h.alive) hwarn.closeReceived)
  · set s := c.session.happened (.handled m) with hs
    have hdeeds : s.deeds = c.session.deeds ++ [.handled m] := (Session.takes_handled _ m).deeds
    have hsent : s.sent = c.session.sent := by
      rw [Session.sent_eq, Session.sent_eq, hdeeds, Deeds.records_append]
      exact List.append_nil _
    have hheard : s.heard = c.session.heard := Session.heard_append hdeeds (by simp [Event.alertBytes])
    have hspeaks : Speaks Reacts c.session s := .of_eq hsent rfl rfl rfl rfl
    obtain ⟨hreaction, hresult⟩ := Step.law_reaction.keeps_handle c.config stage m s h.alive
    have hopened := Stage.handle_keepsOpen c.config stage m s
    rcases hrun : (stage.handle c.config m).run s with ⟨e | stage', s'⟩
    all_goals rw [hrun] at hreaction hresult hopened
    · exact .proper h hresult (hspeaks.trans hreaction.speaks) (hreaction.heard.trans hheard)
    · exact .goes (hspeaks.trans hreaction.speaks)
        (h.of_heard (hreaction.heard.trans hheard) rfl hresult hopened)

theorem deliverAll_minds (h : c.Heeds) (stage : Stage) (ms : List Message) :
    c.Minds (c.deliverAll stage ms) := by
  induction ms generalizing c stage with
  | nil => exact .goes (.refl _) h
  | cons m ms ih =>
    have hdeliver := deliver_minds h stage m
    unfold deliverAll
    rcases hx : c.deliver stage m with ⟨e | stage', c'⟩
    all_goals rw [hx] at hdeliver
    · exact hdeliver
    · cases hdeliver with
      | goes hs h => exact (ih h stage').after hs

theorem takeHandshakes_minds (h : c.Heeds) (stage : Stage) (r : Record) :
    c.Minds (c.takeHandshakes stage r) := by
  unfold takeHandshakes
  rcases c.handshakes.push r with ⟨e | n, j⟩ <;> dsimp only
  · exact .proper h (fun _ => by rintro ⟨⟩) (.refl _) rfl
  · set c' : Connection := { c with handshakes := { j with ready := [] } } with hc'
    have hheeds : c'.Heeds := h.of_heard rfl rfl h.alive rfl
    have hsame : Speaks Reacts c.session c'.session := .refl _
    exact (deliverAll_minds hheeds stage j.ready).after hsame

theorem takeMessage_minds (h : c.Heeds) (stage : Stage) (r : Record) :
    c.Minds (c.takeMessage stage r) := by
  unfold takeMessage
  split
  · exact deliver_minds h stage _
  · exact .proper h (fun _ => by rintro ⟨⟩) (.refl _) rfl

/-! ## Taking in a record -/

/-- A connection that has just opened a record, and heeded the server before. -/
structure Hearing (c : Connection) (before : List Event) (k : Bool) (r : Record) : Prop where
  alive : c.session.status ≠ .closed
  opened : c.session.closeReceived = false
  alerts : c.alerts = { buffer := Deeds.half before }
  verdict : Deeds.verdict before = none
  deeds : c.session.deeds = before ++ [.opened k r]

variable {before : List Event} {k : Bool} {r : Record}

/-- A record of another kind is none of the peer's alerts. -/
theorem Hearing.heeds (h : c.Hearing before k r) (hr : r.typ ≠ .alert) : c.Heeds := by
  have hbytes : Deeds.alertBytes c.session.deeds = Deeds.alertBytes before := by
    rw [h.deeds, Deeds.alertBytes_append]
    simp [Deeds.alertBytes, Event.alertBytes, hr]
  refine ⟨h.alive, h.opened, ?_, ?_⟩
  · rw [h.alerts, Deeds.half, Deeds.half, hbytes]
  · rw [Deeds.verdict, Deeds.alerts, hbytes]
    exact h.verdict

/-- The first alert that is more than a warning decides: it is not known, or it ends the connection, by an
error or, at the end of a handshake, in order. -/
theorem receiveAlert_conducts {s : Session} {a : Alert} (halive : s.status ≠ .closed)
    (hspeaks : Speaks Serves c.session s) (ha : a.harmless = false)
    (hverdict : Deeds.verdict s.deeds = some a)
    (hclosed : ∀ s', Talks s s' → s.traffic = true → s'.closeReceived = true → a.Known →
      a.description = .closeNotify → c₀.PeerClosed s') (hc' : c'.session = (s.receiveAlert a).2) :
    Conducts c₀ c ((s.receiveAlert a).1.map fun () => stage, c') := by
  have htalk := Session.talks_receiveAlert s a
  have hheard : Deeds.verdict c'.session.deeds = some a := by
    rw [hc', Deeds.verdict_of_heard htalk.heard, hverdict]
  by_cases hk : a.Known
  · have htold := Session.receiveAlert_known hk ha s
    rw [← hc'] at htalk
    rcases hx : s.receiveAlert a with ⟨e | u, s'⟩
    all_goals
      rw [hx] at htold hc'
      obtain rfl : c'.session = s' := hc'
      dsimp only [Except.map]
    · rcases htold.result with hr | ⟨hr, -⟩
      · exact .falls hspeaks halive
          (.unanswered (.inr ⟨a, hheard, hk, Except.error.inj hr⟩) htold.closed htold.speaks)
      · cases hr
    · rcases htold.result with hr | ⟨-, hd, ht, hclose⟩
      · cases hr
      · exact .leaves hspeaks halive htold.speaks htold.closed (hclosed _ htalk ht hclose hk hd)
  · rw [Session.receiveAlert_unknown hk] at hc' ⊢
    refine .falls hspeaks halive (.answered ?_ ?_)
    · rintro (⟨why, hwhy⟩ | ⟨a', ha', hk', -⟩)
      · cases hwhy
      · rw [hheard] at ha'
        cases ha'
        exact hk hk'
    · rw [hc']
      exact Session.speaks_abort s (by decide)

/-- A record of alerts: the ones that it completes are taken in, and a byte may be left over. -/
theorem takeAlerts_eq {left : Bytes} (h : c.alerts = { buffer := left }) (stage : Stage) (r : Record) :
    c.takeAlerts stage r =
      ((c.session.receiveAlerts (AlertJoiner.pairs (left ++ r.payload)).1).1.map fun () => stage,
        { c with
          session := (c.session.receiveAlerts (AlertJoiner.pairs (left ++ r.payload)).1).2
          alerts := { buffer := (AlertJoiner.pairs (left ++ r.payload)).2 } }) := by
  rw [takeAlerts, h]
  rfl

theorem takeAlerts_conducts (h : c.Hearing before k r) (hr : r.typ = .alert)
    (hdone : c.session.traffic = true → c₀.Reaches before .traffic) :
    Conducts c₀ c (c.takeAlerts stage r) := by
  have hbytes : Deeds.alertBytes [.opened k r] = r.payload := by
    simp [Deeds.alertBytes, Event.alertBytes, hr]
  set as := (AlertJoiner.pairs (Deeds.half before ++ r.payload)).1 with has
  have hverdict : Deeds.verdict c.session.deeds = as.find? fun a => !a.harmless := by
    rw [h.deeds, Deeds.verdict_append, h.verdict, hbytes]
    rfl
  obtain ⟨s, hquiet, hfind⟩ := Session.receiveAlerts_find h.opened as
  have halive : s.status ≠ .closed := hquiet.status ▸ h.alive
  have hleft : (AlertJoiner.pairs (Deeds.half before ++ r.payload)).2 = Deeds.half c.session.deeds := by
    rw [h.deeds, Deeds.half_append, hbytes]
  have htake := takeAlerts_eq h.alerts stage r
  rw [← has, hleft] at htake
  rcases hv : as.find? fun a => !a.harmless with _ | a
  all_goals
    rw [hv] at hfind
    rw [htake, hfind]
  · have hheeds : ({ c with
        session := s
        alerts := { buffer := Deeds.half c.session.deeds } } : Connection).Heeds :=
      ⟨halive, hquiet.closeReceived.trans h.opened, by rw [hquiet.deeds],
        by rw [hquiet.deeds, hverdict, hv]⟩
    exact .goes (.quiet hquiet) hheeds
  · refine receiveAlert_conducts halive (.quiet hquiet) (by simpa using List.find?_some hv)
      (by rw [hquiet.deeds, hverdict, hv]) (fun s' htalk ht hclose hk hd => ?_) rfl
    obtain ⟨es, hes, -⟩ := htalk.deeds
    refine ⟨hclose, before, k, r, es, a, ?_, hdone (hquiet.traffic ▸ ht), h.verdict, ?_, hk, hd⟩
    · rw [hes, hquiet.deeds, h.deeds, List.append_assoc]
      rfl
    · rw [← h.deeds, hverdict, hv]

/-- What a record holds is a part of a message, alerts, a message by itself, or nothing known; or it
comes between the parts of a message. -/
theorem takeOpened_conducts (h : c.Hearing before k r)
    (hdone : c.session.traffic = true → c₀.Reaches before .traffic) :
    Conducts c₀ c (c.takeOpened stage r) := by
  unfold takeOpened
  split
  · refine .falls (.refl _) h.alive (.answered ?_ (Session.speaks_abort _ (by decide)))
    rintro (⟨why, hwhy⟩ | ⟨a, -, -, ha⟩)
    · cases hwhy
    · cases ha
  · split
    · next hr =>
      have hheeds := h.heeds (by rw [hr]; decide)
      exact (takeHandshakes_minds hheeds stage r).conducts h.alive
    · split
      · next hr => exact takeAlerts_conducts h hr hdone
      · next hr =>
        have hheeds := h.heeds hr
        split
        · exact (takeMessage_minds hheeds stage r).conducts h.alive
        · exact .goes (.note _ _) (hheeds.of_heard (Session.heard_of_deeds (by simp)) rfl h.alive rfl)

theorem takeRecord_conducts (h : c.Heeds)
    (hdone : c.session.traffic = true → c₀.Reaches c.session.deeds .traffic) (wire : Record) :
    Conducts c₀ c (c.takeRecord stage wire) := by
  rcases hopen : c.session.layer.receiving.unprotect wire with ⟨e | r, d⟩
  · rw [takeRecord_refused hopen]
    have hfails : c.Minds (.error e, { c with
        session := { c.session with layer := { c.session.layer with receiving := d } } }) :=
      .proper h (Direction.unprotect_proper hopen) (.of_eq rfl rfl rfl rfl rfl) rfl
    exact hfails.conducts h.alive
  · rw [takeRecord_opened hopen]
    set s := ({ c.session with layer := { c.session.layer with receiving := d } } : Session).happened
      (.opened c.session.layer.receiving.isActive r) with hs
    have hopens : c.session.Opens r s := ⟨wire, d, hopen, rfl⟩
    have hdeeds := hopens.takes.deeds
    have hspeaks : Speaks Serves c.session s := by
      refine .of_eq ?_ rfl rfl rfl rfl
      rw [Session.sent_eq, Session.sent_eq, hdeeds, Deeds.records_append]
      exact List.append_nil _
    exact (takeOpened_conducts (c := { c with session := s })
      ⟨h.alive, h.opened, h.alerts, h.verdict, hdeeds⟩ hdone).after hspeaks

end Connection

end TlsClient
