import TlsClient.Proofs.Connection.Conduct

/-!
# Where a connection stands

Between calls a connection heeds the server, or the server has closed it in order, or it has fallen by an
error (`Stands`).  Every call leads from one of these to another, by changes of the dialogue that are of
its kind (`Stands.call`).  Hence at every moment of a run the alerts are in order (`run_orderly`), and what
is said from one moment to the next is the work of the calls between them (`run_speaks`).
-/

namespace TlsClient

open Relation (ReflTransGen)
open Session (Speaks Talks)
open Dialogue (Reacts Serves Turn)

/-- The changes of the dialogue that a call can bring. -/
def Call.Turns : Call → Dialogue → Dialogue → Prop
  | .write _ => Dialogue.Writes
  | .close => Turn
  | _ => Serves

theorem Call.Turns.turn {call : Call} {d d' : Dialogue} (h : call.Turns d d') : Turn d d' := by
  cases call with
  | write bs => exact .writes h
  | close => exact h
  | _ => exact .serves h

namespace Session

variable {s s' : Session} {e : TlsError}

theorem Quiet.dialogue (h : s.Quiet s') : s'.dialogue = s.dialogue := by
  rw [Session.dialogue, Session.dialogue, said, said, h.sent, h.status, h.traffic, h.early]

theorem Quiet.inBounds (h : s.Quiet s') (hb : s'.InBounds) : s.InBounds :=
  hb.of_sent (h.sent ▸ List.prefix_rfl)

/-- A session whose alerts are in order as long as there are numbers for its records. -/
structure Orderly (s : Session) : Prop where
  able : s.Able
  dialogue : s.InBounds → s.dialogue.Orderly

theorem Orderly.turns (h : s.Orderly) (hs : Speaks Turn s s') : s'.Orderly :=
  ⟨hs.able h.able, fun hb => (h.dialogue (hb.of_sent hs.sent)).turns (hs.dialogue h.able hb)⟩

theorem Orderly.calm (h : s.Orderly) (hs : s.status ≠ .closed) (hb : s.InBounds) :
    s.dialogue.fatals = 0 := (h.dialogue hb).calm hs

/-- An open session has not said that it will send nothing more. -/
theorem Orderly.unclosed (h : s.Orderly) (ho : s.status = .opened) (hb : s.InBounds) :
    ∀ r ∈ s.said, r.isCloseNotify = false := by
  have hsilent : s.said.countP Record.isCloseNotify = 0 := (h.dialogue hb).silent ho
  exact fun r hr => Bool.eq_false_iff.mpr (List.countP_eq_zero.mp hsilent r hr)

theorem orderly_new (random : RandomSource) : Orderly { random } := by
  refine ⟨⟨fun h => (by cases h), Nat.zero_le _, fun _ => Nat.zero_le _⟩, fun _ =>
    ⟨fun _ => rfl, Nat.zero_le _, fun _ => rfl, fun before r after h => ?_, fun _ => rfl⟩⟩
  have hlength := congrArg List.length h
  simp [Session.dialogue, said, sent] at hlength

/-- A session that has ended with an error, after one fatal alert unless the error needs no answer. -/
structure Fallen (s : Session) (e : TlsError) : Prop where
  closed : s.status = .closed
  unanswered : s.InBounds → e.Unanswered s.deeds → s.dialogue.fatals = 0
  answered : s.InBounds → ¬ e.Unanswered s.deeds → s.dialogue.fatals = 1

theorem Fallen.quiet (h : s.Fallen e) (hq : s.Quiet s') : s'.Fallen e :=
  ⟨hq.status.trans h.closed,
    fun hb hu => hq.dialogue ▸ h.unanswered (hq.inBounds hb) (hq.deeds ▸ hu),
    fun hb hu => hq.dialogue ▸ h.answered (hq.inBounds hb) (hq.deeds ▸ hu)⟩

theorem speaks_serves_hears (h : Speaks Dialogue.Hears s s') : Speaks Serves s s' :=
  h.mono fun _ _ => .hears

theorem quiet_loseTransport (h : s.status = .closed) : s.Quiet s.loseTransport :=
  ⟨rfl, h.symm, rfl, rfl, rfl, rfl⟩

theorem write_refused (h : s.status ≠ .opened) (bs : Bytes) :
    s.write bs = (.error .connectionClosed, s) := if_pos h

theorem write_alive (h : s.status ≠ .closed) (bs : Bytes) : (s.write bs).2.status ≠ .closed := by
  unfold write
  split
  · exact h
  · by_cases ht : s.traffic = true
    · exact (utters_sendPlaintext ht bs).alive h
    · show (s.sendPlaintext bs).status ≠ .closed
      rw [sendPlaintext, if_pos (by simp [ht])]
      exact h

theorem sendClose_refused (h : s.status ≠ .opened) : s.sendClose = s := if_pos h

end Session

namespace Connection

variable {o : Origin} {hello : ClientHello} {c₀ c c' : Connection} {stage : Stage} {e : TlsError}

/-! ## Taking in all that has arrived -/

theorem takeRecords_closed (h : c.session.closeReceived = true) (fuel : Nat) (stage : Stage) :
    takeRecords fuel c stage = (.ok stage, c) := by
  cases fuel with
  | zero => rfl
  | succ fuel => rw [takeRecords, if_pos h]

/-- Once the handshake is over, the messages that were handled had led to its end. -/
theorem Starts.reaches_traffic (h : c₀.Starts o hello)
    (hsound : ({ c with stage := .ok stage } : Connection).Sound o) (ht : c.session.traffic = true) :
    c₀.Reaches c.session.deeds .traffic := by
  obtain ⟨r, hstage, -⟩ := hsound.phase.of_traffic rfl ht
  exact h.reaches (hsound.course.onCourse _ hstage)

/-- A record that was cut out of what has arrived is taken in. -/
theorem popped_conducts (hstart : c₀.Starts o hello) (h : c.Heeds)
    (hsound : ({ c with stage := .ok stage } : Connection).Sound o) (d : Deframer) (wire : Record) :
    Conducts c₀ c (({ c with deframer := d } : Connection).takeRecord stage wire) := by
  set c' : Connection := { c with deframer := d } with hc'
  have hsound' : ({ c' with stage := .ok stage } : Connection).Sound o :=
    hsound.step (.talks rfl rfl rfl (.refl _))
  have hheeds : c'.Heeds := h.of_heard rfl rfl h.alive rfl
  have hsame : Speaks Serves c.session c'.session := .refl _
  have hconducts : Conducts c₀ c' (c'.takeRecord stage wire) :=
    takeRecord_conducts hheeds (hstart.reaches_traffic hsound') wire
  exact hconducts.after hsame

theorem takeRecords_conducts (hstart : c₀.Starts o hello) (h : c.Heeds)
    (hsound : ({ c with stage := .ok stage } : Connection).Sound o)
    (hready : c.handshakes.ready = []) (fuel : Nat) :
    Conducts c₀ c (takeRecords fuel c stage) := by
  induction fuel generalizing c stage with
  | zero => exact .goes (.refl _) h
  | succ fuel ih =>
    unfold takeRecords
    rw [if_neg (by rw [h.opened]; decide)]
    rcases hpop : c.deframer.pop with ⟨e | _ | wire, d⟩
    · have hfails : c.Minds (.error e, { c with deframer := d }) :=
        .proper h (Deframer.pop_proper hpop) (.refl _) rfl
      exact hfails.conducts h.alive
    · have hgoes : ({ c with deframer := d } : Connection).Heeds := h.of_heard rfl rfl h.alive rfl
      exact .goes (.refl _) hgoes
    · set c' : Connection := { c with deframer := d } with hc'
      have hsound' : ({ c' with stage := .ok stage } : Connection).Sound o :=
        hsound.step (.talks rfl rfl rfl (.refl _))
      have hconducts := popped_conducts hstart h hsound d wire
      have hleads := @takeRecord_leads c' stage hready wire
      dsimp only
      rcases htake : c'.takeRecord stage wire with ⟨e | stage', c''⟩
      all_goals rw [htake] at hconducts hleads
      · exact hconducts
      · obtain ⟨hmoves, hready'⟩ := hleads
        have hsound'' := hsound'.moves hmoves
        cases hconducts with
        | goes hs hheeds' => exact (ih hheeds' hsound'' hready').after hs
        | leaves hs halive hlast hclosed hleft =>
          dsimp only
          rw [takeRecords_closed hleft.1]
          exact .leaves hs halive hlast hclosed hleft

/-! ## Standing -/

/-- How a connection stands between calls. -/
inductive Stands (c₀ c : Connection) : Prop
  | heeds {stage : Stage} (hstage : c.stage = .ok stage) (h : c.Heeds)
  | left {stage : Stage} (hstage : c.stage = .ok stage) (hclosed : c.session.status = .closed)
    (hcalm : c.session.InBounds → c.session.dialogue.fatals = 0) (h : c₀.PeerClosed c.session)
  | fallen {e : TlsError} (hstage : c.stage = .error e) (h : c.session.Fallen e)

theorem Stands.quiet (h : c₀.Stands c) (hq : c.session.Quiet c'.session) (hstage : c'.stage = c.stage)
    (halerts : c'.alerts = c.alerts) : c₀.Stands c' := by
  cases h with
  | heeds hs h =>
    exact .heeds (hstage.trans hs) (h.of_heard (Session.heard_of_deeds hq.deeds) halerts
      (hq.status ▸ h.alive) hq.closeReceived)
  | left hs hclosed hcalm h =>
    refine .left (hstage.trans hs) (hq.status.trans hclosed)
      (fun hb => hq.dialogue ▸ hcalm (hq.inBounds hb)) ⟨hq.closeReceived.trans h.1, ?_⟩
    rw [hq.deeds]
    exact h.2
  | fallen hs h => exact .fallen (hstage.trans hs) (h.quiet hq)

/-- Before it has fallen a connection has sent no fatal alert. -/
theorem Stands.calm (h : c₀.Stands c) (ho : c.session.Orderly) (hstage : c.stage = .ok stage)
    (hb : c.session.InBounds) : c.session.dialogue.fatals = 0 := by
  cases h with
  | heeds _ h => exact ho.calm h.alive hb
  | left _ _ hcalm => exact hcalm hb
  | fallen hs => rw [hstage] at hs; cases hs

/-- A connection with an error has fallen by that error. -/
theorem Stands.fallen_of_error (h : c₀.Stands c) (hstage : c.stage = .error e) :
    c.session.Fallen e := by
  cases h with
  | heeds hs | left hs =>
    rw [hstage] at hs
    cases hs
  | fallen hs h =>
    rw [hstage] at hs
    cases hs
    exact h

variable {s s' : Session}

/-- A session that falls is closed by the error, if it was not before. -/
theorem Falls.fallen (h : Falls e s s') (ho : s.Orderly) (halive : s.status ≠ .closed) :
    Speaks Serves s (s'.abort e.alert) ∧ (s'.abort e.alert).Fallen e := by
  cases h with
  | answered h hs =>
    have hall := hs.trans (Session.speaks_abort s' e.alert_ne_closeNotify)
    have hclosed := Session.abort_closed s' e.alert
    have hheard := (Session.talks_abort s' e.alert).heard
    refine ⟨speaks_serves hall, hclosed,
      fun _ hu => absurd ((TlsError.unanswered_of_heard hheard).mp hu) h, fun hb _ => ?_⟩
    exact Dialogue.fatals_of_reacts (hall.dialogue ho.able hb)
      (ho.dialogue (hb.of_sent hall.sent)) halive hclosed
  | unanswered h hclosed hs =>
    rw [show s'.abort e.alert = s' from if_pos hclosed]
    exact ⟨Session.speaks_serves_hears hs, hclosed, fun hb _ => Dialogue.fatals_of_hears
      (hs.dialogue ho.able hb) (ho.calm halive (hb.of_sent hs.sent)), fun _ hn => absurd h hn⟩

/-- The connection when something has been taken in. -/
def upshot : Except TlsError Stage × Connection → Connection
  | (.ok stage, c) => { c with stage := .ok stage }
  | (.error e, c) => c.fail e

/-- Where a connection stands when something has been taken in. -/
theorem Conducts.stands {x : Except TlsError Stage × Connection} (h : Conducts c₀ c x)
    (ho : c.session.Orderly) : Speaks Serves c.session (upshot x).session ∧ c₀.Stands (upshot x) := by
  cases h with
  | goes hs h => exact ⟨hs, .heeds rfl ⟨h.alive, h.opened, h.alerts, h.verdict⟩⟩
  | leaves hs halive hlast hclosed hleft =>
    have ho' := ho.turns (hs.mono fun _ _ => .serves)
    exact ⟨hs.trans (Session.speaks_serves_hears hlast), .left rfl hclosed (fun hb =>
      Dialogue.fatals_of_hears (hlast.dialogue ho'.able hb)
        (ho'.calm halive (hb.of_sent hlast.sent))) hleft⟩
  | falls hs halive hfalls =>
    obtain ⟨hspeaks, hfallen⟩ := hfalls.fallen (ho.turns (hs.mono fun _ _ => .serves)) halive
    exact ⟨hs.trans hspeaks, .fallen rfl hfallen⟩

theorem process_stands (hstart : c₀.Starts o hello) (hsound : c.Sound o) (hdrained : c.Drained)
    (ho : c.session.Orderly) (h : c₀.Stands c) :
    Speaks Serves c.session c.process.2.session ∧ c₀.Stands c.process.2 := by
  unfold process
  cases h with
  | fallen hs h =>
    rw [hs]
    exact ⟨.refl _, .fallen hs h⟩
  | left hs hclosed hcalm h =>
    rw [hs]
    dsimp only
    rw [takeRecords_closed h.1]
    exact ⟨.refl _, .left rfl hclosed hcalm h⟩
  | @heeds stage hs h =>
    have hc : ({ c with stage := .ok stage } : Connection) = c := by rw [← hs]
    have hok : ({ c with stage := .ok stage } : Connection).Sound o := hc.symm ▸ hsound
    have hconducts := (takeRecords_conducts hstart h hok (hdrained stage hs)
      (c.deframer.buffer.length + 1)).stands ho
    rw [hs]
    dsimp only
    rcases htake : takeRecords (c.deframer.buffer.length + 1) c stage with ⟨e | stage', c'⟩
    all_goals
      rw [htake] at hconducts
      exact hconducts

theorem Exchanges.stands (h : c.Exchanges c') (ho : c.session.Orderly) (hc : c₀.Stands c) :
    Speaks Serves c.session c'.session ∧ c₀.Stands c' := by
  cases h with
  | idle => exact ⟨.refl _, hc⟩
  | arrives bs => exact ⟨.refl _, hc.quiet (.refl _) rfl rfl⟩
  | leaves n =>
    have hquiet : c.session.Quiet
        { c.session with outgoing := c.session.outgoing.drop n } := ⟨rfl, rfl, rfl, rfl, rfl, rfl⟩
    exact ⟨.quiet hquiet, hc.quiet hquiet rfl rfl⟩
  | fails hstage e =>
    have hspeaks : Speaks Dialogue.Hears c.session
        (c.session.note (.transportFailed e)).loseTransport :=
      (Speaks.note _ _).trans (Session.speaks_loseTransport _)
    refine ⟨Session.speaks_serves_hears hspeaks, .fallen rfl ⟨rfl, fun hb _ => ?_,
      fun _ hn => absurd (.inl ⟨e, rfl⟩) hn⟩⟩
    exact Dialogue.fatals_of_hears (hspeaks.dialogue ho.able hb)
      (hc.calm ho hstage (hb.of_sent hspeaks.sent))
  | loses hstage =>
    have hfallen := hc.fallen_of_error hstage
    have hquiet := Session.quiet_loseTransport hfallen.closed
    exact ⟨.quiet hquiet, .fallen hstage (hfallen.quiet hquiet)⟩

/-- A call that talks and leaves an unusable session alone. -/
theorem Stands.talks (h : c₀.Stands c) (ht : Talks c.session s)
    (hopened : s.closeReceived = c.session.closeReceived)
    (halive : c.session.status ≠ .closed → s.status ≠ .closed)
    (hsame : c.session.status = .closed → s = c.session) :
    c₀.Stands { c with session := s } := by
  have hrefused (hclosed : c.session.status = .closed) :
      ({ c with session := s } : Connection) = c := by rw [hsame hclosed]
  cases h with
  | heeds hs h =>
    have hheeds : ({ c with session := s } : Connection).Heeds :=
      h.of_heard ht.heard rfl (halive h.alive) hopened
    exact .heeds hs hheeds
  | left hs hclosed hcalm h =>
    rw [hrefused hclosed]
    exact .left hs hclosed hcalm h
  | fallen hs h =>
    rw [hrefused h.closed]
    exact .fallen hs h

/-- Every call changes the dialogue in its own way, and the connection stands as it may. -/
theorem Stands.call (h : c₀.Stands c) (hstart : c₀.Starts o hello) (hsound : c.Sound o)
    (hdrained : c.Drained) (ho : c.session.Orderly) (call : Call) :
    Speaks call.Turns c.session (c.call call).session ∧ c₀.Stands (c.call call) := by
  have hclosed : c.session.status = .closed → c.session.status ≠ .opened := by
    intro hc
    rw [hc]
    decide
  cases call with
  | readTls t => exact (exchanges_readTls c t).stands ho h
  | writeTls t => exact (exchanges_writeTls c t).stands ho h
  | process => exact process_stands hstart hsound hdrained ho h
  | write bs =>
    exact ⟨Session.speaks_write _ _, h.talks (Session.talks_write _ _) (Session.write_keepsOpen _ _)
      (fun hs => Session.write_alive hs bs)
      fun hc => congrArg Prod.snd (Session.write_refused (hclosed hc) bs)⟩
  | read n =>
    have hquiet : c.session.Quiet (c.session.read n).2 := ⟨rfl, rfl, rfl, rfl, rfl, rfl⟩
    exact ⟨.quiet hquiet, h.quiet hquiet rfl rfl⟩
  | close =>
    exact ⟨Session.speaks_sendClose _, h.talks (Session.talks_sendClose _)
      (Session.sendClose_keepsOpen _) (Session.proceeds_sendClose _).alive
      fun hc => Session.sendClose_refused (hclosed hc)⟩

/-! ## Runs -/

variable {config : Config} {time : Int} {random : RandomSource}

/-- What the start of a connection says, and where it stands then. -/
theorem start_stands (h : Connection.start config time random = .ok c) :
    Speaks Serves { random } c.session ∧ c.Stands c := by
  have hnew : ({ random } : Session).status ≠ .closed := by rintro ⟨⟩
  obtain ⟨hreaction, hresult⟩ :=
    Step.law_reaction.keeps_start config time.toNat ({ random } : Session) hnew
  have hopened := (Step.law_opened.keeps_start config time.toNat ({ random } : Session) trivial).1
  unfold Connection.start at h
  rcases hrun : (Stage.start config time.toNat).run { random } with ⟨e | stage, s⟩
  all_goals rw [hrun] at h hreaction hresult hopened
  · cases h
  · cases h
    have hverdict := Deeds.verdict_of_heard hreaction.heard
    have hhalf := Deeds.half_of_heard hreaction.heard
    refine ⟨speaks_serves hreaction.speaks, .heeds rfl ⟨hresult, hopened, ?_, hverdict⟩⟩
    exact congrArg (fun bs => ({ buffer := bs } : AlertJoiner)) hhalf.symm

/-- At every moment of a run the alerts are in order. -/
theorem run_orderly (h : Connection.start config time random = .ok c) (calls : List Call) :
    (c.run calls).session.Orderly ∧ c.Stands (c.run calls) := by
  obtain ⟨o, hello, hstart, -⟩ := start_starts h
  obtain ⟨hspeaks, hstands⟩ := start_stands h
  induction calls using List.reverseRecOn with
  | nil => exact ⟨(Session.orderly_new random).turns (hspeaks.mono fun _ _ => .serves), hstands⟩
  | append_singleton calls call ih =>
    obtain ⟨ho, hs⟩ := ih
    obtain ⟨hcall, hs'⟩ := hs.call hstart (hstart.sound_run calls) (run_moves hstart.drained calls).2
      ho call
    rw [run_append]
    exact ⟨ho.turns (hcall.mono fun _ _ => Call.Turns.turn), hs'⟩

/-- A call changes the dialogue of a run in its own way. -/
theorem run_call (h : Connection.start config time random = .ok c) (calls : List Call) (call : Call) :
    Speaks call.Turns (c.run calls).session (c.run (calls ++ [call])).session := by
  obtain ⟨o, hello, hstart, -⟩ := start_starts h
  obtain ⟨ho, hs⟩ := run_orderly h calls
  rw [run_append]
  exact (hs.call hstart (hstart.sound_run calls) (run_moves hstart.drained calls).2 ho call).1

/-- From one moment of a run to a later one the dialogue changes by turns. -/
theorem run_speaks (h : Connection.start config time random = .ok c) (calls later : List Call) :
    Speaks Turn (c.run calls).session (c.run (calls ++ later)).session := by
  induction later using List.reverseRecOn with
  | nil =>
    rw [List.append_nil]
    exact .refl _
  | append_singleton later call ih =>
    rw [← List.append_assoc]
    exact ih.trans ((run_call h _ call).mono fun _ _ => Call.Turns.turn)

/-- A session that was closed by its user is not open any more. -/
theorem run_closed (h : Connection.start config time random = .ok c) {calls : List Call}
    (hmem : .close ∈ calls) : (c.run calls).session.status ≠ .opened := by
  obtain ⟨earlier, later, rfl⟩ := List.append_of_mem hmem
  have hclose : (c.run (earlier ++ [.close])).session.status ≠ .opened := by
    rw [run_append]
    exact Session.sendClose_not_opened _
  have hspeaks := run_speaks h (earlier ++ [.close]) later
  rw [List.append_assoc, List.singleton_append] at hspeaks
  exact fun ho => hclose (Status.opened_of_rank hspeaks.status ho)

end Connection

end TlsClient
