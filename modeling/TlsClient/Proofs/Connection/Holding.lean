import TlsClient.Proofs.Connection.Failure
import TlsClient.Proofs.Connection.Reading
import TlsClient.Proofs.Session.Filling

/-!
# What a connection holds

Taking something in only adds to what waits, and a close notification is noticed in one of two ways: it ends a
handshake with an error, or it comes after the handshake and is none (`Collects`).  So at every moment of a
run a connection holds no empty chunk, no data before the handshake is over, and nothing to write once its
transport has failed (`Regular`); it is closed just if it has failed or the peer has closed (`Stands.closed_iff`).
-/

namespace TlsClient

open Relation (ReflTransGen)
open Session (Fills)

namespace Session

variable {s : Session} {a : Alert}

/-- An alert that closes the peer's side is a close notification: after the handshake that is no error. -/
theorem receiveAlert_closes (h : s.closeReceived = false)
    (hclose : (s.receiveAlert a).2.closeReceived = true) :
    (s.receiveAlert a).1 = if s.traffic then .ok () else .error (.alertReceived .closeNotify) := by
  unfold receiveAlert at hclose ⊢
  split at hclose
  · rw [abort_keepsOpen, h] at hclose
    cases hclose
  · split at hclose
    · next hlevel hd =>
      rw [if_neg hlevel, if_pos hd]
      exact (receiveClose_result s).2
    · split at hclose
      · exact absurd (hclose.symm.trans h) (by decide)
      · exact absurd (hclose.symm.trans h) (by decide)

theorem receiveAlerts_closes {as : List Alert} (h : s.closeReceived = false)
    (hclose : (s.receiveAlerts as).2.closeReceived = true) : (s.receiveAlerts as).1 =
      if (s.receiveAlerts as).2.traffic then .ok () else .error (.alertReceived .closeNotify) := by
  obtain ⟨s₁, hquiet, hfind⟩ := receiveAlerts_find h as
  have hopen := hquiet.closeReceived.trans h
  rw [hfind] at hclose ⊢
  split at hclose
  · exact absurd (hclose.symm.trans hopen) (by decide)
  · next a _ => rw [receiveAlert_closes hopen hclose, (talks_receiveAlert s₁ a).traffic]

end Session

namespace Connection

variable {c c' c₀ : Connection} {stage : Stage} {o : Origin} {hello : ClientHello} {m : Message}
  {r wire : Record} {e : TlsError} {x : Except TlsError Stage × Connection}

/-! ## Taking in a record -/

/-- Relaying messages to the stages adds to what waits, leaves the peer's side as it is, and fails with errors
that are no failures of the transport. -/
structure Relays (c : Connection) (x : Except TlsError Stage × Connection) : Prop where
  fills : Fills c.session x.2.session
  opened : x.2.session.closeReceived = c.session.closeReceived
  proper : ∀ e, x.1 = .error e → e.Proper

/-- Taking anything in adds to what waits, and fails with errors that are no failures of the transport.  The
peer closes its side in order after the handshake, and by an error before. -/
structure Collects (c : Connection) (x : Except TlsError Stage × Connection) : Prop where
  fills : Fills c.session x.2.session
  proper : ∀ e, x.1 = .error e → e.Proper
  closed : x.2.session.closeReceived = true →
    if x.2.session.traffic then x.1.isOk = true else x.1 = .error (.alertReceived .closeNotify)

theorem Relays.after (hs : Fills c.session c'.session)
    (hopened : c'.session.closeReceived = c.session.closeReceived) (h : c'.Relays x) : c.Relays x :=
  ⟨hs.trans h.fills, h.opened.trans hopened, h.proper⟩

theorem Relays.collects (h : c.Relays x) (hopen : c.session.closeReceived = false) : c.Collects x := by
  refine ⟨h.fills, h.proper, fun hclosed => ?_⟩
  rw [h.opened, hopen] at hclosed
  cases hclosed

theorem deliver_relays (c : Connection) (stage : Stage) (m : Message) :
    c.Relays (c.deliver stage m) := by
  unfold deliver
  split
  · exact ⟨Session.fills_sendWarning _ _, (Session.utters_send _ _).closeReceived, fun _ he => nomatch he⟩
  · set s := c.session.happened (.handled m) with hs
    have hhandled : Fills c.session s := .happened _ rfl
    constructor
    · exact hhandled.trans (Stage.handle_fills c.config stage m s)
    · exact Stage.handle_keepsOpen c.config stage m s
    · intro e he
      have hkept := (Step.law_opened.keeps_handle c.config stage m s trivial).2
      rw [show ((stage.handle c.config m).run s).1 = .error e from he] at hkept
      exact hkept

theorem deliverAll_relays (c : Connection) (stage : Stage) (ms : List Message) :
    c.Relays (c.deliverAll stage ms) := by
  induction ms generalizing c stage with
  | nil => exact ⟨.refl _, rfl, fun _ he => nomatch he⟩
  | cons m ms ih =>
    have hfirst := deliver_relays c stage m
    unfold deliverAll
    rcases hx : c.deliver stage m with ⟨e | stage', c'⟩
    all_goals rw [hx] at hfirst
    · exact hfirst
    · exact (ih c' stage').after hfirst.fills hfirst.opened

theorem takeHandshakes_relays (c : Connection) (stage : Stage) (r : Record) :
    c.Relays (c.takeHandshakes stage r) := by
  unfold takeHandshakes
  rcases c.handshakes.push r with ⟨e | n, j⟩
  · refine ⟨.refl _, rfl, fun e' he => ?_⟩
    cases he
    exact fun _ => by rintro ⟨⟩
  · have hall := deliverAll_relays { c with handshakes := { j with ready := [] } } stage j.ready
    exact ⟨hall.fills, hall.opened, hall.proper⟩

theorem takeMessage_relays (c : Connection) (stage : Stage) (r : Record) :
    c.Relays (c.takeMessage stage r) := by
  unfold takeMessage
  split
  · exact deliver_relays c stage _
  · refine ⟨.refl _, rfl, fun e he => ?_⟩
    cases he
    exact fun _ => by rintro ⟨⟩

theorem takeAlerts_collects (hopen : c.session.closeReceived = false) (stage : Stage) (r : Record) :
    c.Collects (c.takeAlerts stage r) := by
  set as := (c.alerts.push r).2.ready with has
  have htake : c.takeAlerts stage r = ((c.session.receiveAlerts as).1.map fun () => stage,
      { c with
        session := (c.session.receiveAlerts as).2
        alerts := { (c.alerts.push r).2 with ready := [] } }) := rfl
  rw [htake]
  constructor
  · exact Session.fills_receiveAlerts c.session as
  · intro e he
    rcases hresult : (c.session.receiveAlerts as).1 with e' | u
    all_goals
      dsimp only at he
      rw [hresult] at he
      cases he
    obtain ⟨a, -, rfl⟩ := Session.receiveAlerts_error hresult
    exact fun _ => by rintro ⟨⟩
  · intro hclosed
    dsimp only
    rw [Session.receiveAlerts_closes hopen hclosed]
    split <;> rfl

/-- Every record is collected, whatever is in it. -/
theorem takeOpened_collects (hopen : c.session.closeReceived = false) (stage : Stage) (r : Record) :
    c.Collects (c.takeOpened stage r) := by
  unfold takeOpened
  split
  · have habort : c.Relays (.error (.misbehaved (if r.typ = .changeCipherSpec
        then Misbehaviour.keyChangeInsideMessage else .recordInsideMessage)),
        { c with session := c.session.abort .unexpectedMessage }) :=
      ⟨Session.fills_abort _ _, Session.abort_keepsOpen _ _, fun e he => by
        cases he
        exact fun _ => by rintro ⟨⟩⟩
    exact habort.collects hopen
  · split
    · exact (takeHandshakes_relays c stage r).collects hopen
    · split
      · exact takeAlerts_collects hopen stage r
      · split
        · exact (takeMessage_relays c stage r).collects hopen
        · have hnote : c.Relays (.ok stage, { c with session := c.session.note (.unknownDropped r.typ) }) :=
            ⟨.note _ _, rfl, fun _ he => nomatch he⟩
          exact hnote.collects hopen

theorem takeRecord_collects (hopen : c.session.closeReceived = false) (stage : Stage) (wire : Record) :
    c.Collects (c.takeRecord stage wire) := by
  rcases hunprotect : c.session.layer.receiving.unprotect wire with ⟨e | r, d⟩
  · rw [takeRecord_refused hunprotect]
    have hrefused : c.Relays (.error e, { c with
        session := { c.session with layer := { c.session.layer with receiving := d } } }) :=
      ⟨Session.fills_layer _ _, rfl, fun e' he => by
        cases he
        exact Direction.unprotect_proper hunprotect⟩
    exact hrefused.collects hopen
  · rw [takeRecord_opened hunprotect]
    set s := ({ c.session with layer := { c.session.layer with receiving := d } } : Session).happened
      (.opened c.session.layer.receiving.isActive r) with hs
    have hopened : Fills c.session s := (Session.fills_layer _ _).trans (.happened _ rfl)
    have hcollects := takeOpened_collects (c := { c with session := s }) hopen stage r
    exact ⟨hopened.trans hcollects.fills, hcollects.proper, hcollects.closed⟩

/-- Before the handshake is over nothing is kept for the user. -/
theorem takeRecord_unread (hready : c.handshakes.ready = [])
    (ht : stage = .traffic → c.session.traffic = true) (wire : Record) :
    (c.takeRecord stage wire).2.session.traffic = false →
      (c.takeRecord stage wire).2.session.incoming = c.session.incoming := by
  rcases hunprotect : c.session.layer.receiving.unprotect wire with ⟨e | r, d⟩
  · rw [takeRecord_refused hunprotect]
    exact fun _ => rfl
  · rw [takeRecord_opened hunprotect]
    set s := ({ c.session with layer := { c.session.layer with receiving := d } } : Session).happened
      (.opened c.session.layer.receiving.isActive r) with hs
    by_cases htakes : ({ c with session := s } : Connection).TakesData stage r
    · obtain ⟨m, hdata⟩ := takeOpened_data htakes
      rw [hdata]
      intro hf
      exact absurd ((ht htakes.1).symm.trans hf) (by decide)
    · have hstill := takeOpened_still (c := { c with session := s }) hready htakes
      exact fun _ => hstill.incoming

/-! ## Between two calls -/

/-- What is so of a connection at every moment: it holds no empty chunk, no data before the handshake is
over, and nothing to write once its transport has failed.  If the peer has closed its side, that was after the
handshake, or it is the error that cut the handshake short, or the transport has failed since. -/
structure Regular (c : Connection) : Prop where
  incoming : c.session.incoming.Solid
  outgoing : c.session.outgoing.Solid
  unread : c.session.traffic = false → c.session.incoming = {}
  lost : ∀ why, c.stage = .error (.transport why) → c.session.outgoing = {}
  closed : c.session.closeReceived = true →
    (∃ stage, c.stage = .ok stage) ∧ c.session.traffic = true ∨
    c.stage = .error (.alertReceived .closeNotify) ∧ c.session.traffic = false ∨
    ∃ why, c.stage = .error (.transport why)

/-- What is collected keeps a connection regular. -/
theorem Collects.regular (h : c.Regular) (hx : c.Collects x)
    (hunread : x.2.session.traffic = false → x.2.session.incoming = c.session.incoming) :
    (upshot x).Regular := by
  have hempty : x.2.session.traffic = false → x.2.session.incoming = {} := by
    intro hf
    have hbefore : c.session.traffic = false :=
      Bool.eq_false_iff.mpr fun ht => absurd ((hx.fills.traffic ht).symm.trans hf) (by decide)
    rw [hunread hf, h.unread hbefore]
  rcases x with ⟨e | stage, c'⟩
  · have habort := Session.talks_abort c'.session e.alert
    have hstill := Session.still_abort c'.session e.alert
    have hfills := hx.fills.trans (Session.fills_abort c'.session e.alert)
    constructor
    · exact hfills.solid h.incoming
    · exact hfills.outgoing_solid h.outgoing
    · intro hf
      exact hstill.incoming.trans (hempty (habort.traffic.symm.trans hf))
    · intro why hwhy
      exact absurd (Except.error.inj hwhy) (hx.proper e rfl why)
    · intro hclosed
      have hside := hx.closed ((Session.abort_keepsOpen _ _).symm.trans hclosed)
      split at hside
      · cases hside
      · next ht => exact .inr (.inl ⟨hside, habort.traffic.trans (Bool.eq_false_iff.mpr ht)⟩)
  · constructor
    · exact hx.fills.solid h.incoming
    · exact hx.fills.outgoing_solid h.outgoing
    · exact hempty
    · exact fun _ hwhy => nomatch hwhy
    · intro hclosed
      have hside := hx.closed hclosed
      split at hside
      · next ht => exact .inl ⟨⟨stage, rfl⟩, ht⟩
      · cases hside

/-- A record that has arrived keeps a connection regular. -/
theorem popped_regular (hstart : c₀.Starts o hello) (hm : c₀.Moment c) (h : c.Regular)
    (hok : c.stage = .ok stage) (hopen : c.session.closeReceived = false) {d : Deframer}
    (htake : ({ c with deframer := d } : Connection).takeRecord stage wire = x) : (upshot x).Regular := by
  subst htake
  have hcut : ({ c with deframer := d } : Connection).Regular :=
    ⟨h.incoming, h.outgoing, h.unread, h.lost, h.closed⟩
  refine (takeRecord_collects (c := { c with deframer := d }) hopen stage wire).regular hcut ?_
  refine takeRecord_unread (c := { c with deframer := d }) (hm.drained stage hok) ?_ wire
  rintro rfl
  exact (hm.sound hstart).phase.traffic hok

theorem Passes.regular (hstart : c₀.Starts o hello) (hm : c₀.Moment c) (h : c.Regular)
    (hpass : c.Passes c') : c'.Regular := by
  cases hpass with
  | record hok hopen hpop htake =>
    exact popped_regular hstart hm h hok hopen htake

theorem Rests.regular (hstart : c₀.Starts o hello) (hm : c₀.Moment c) (h : c.Regular)
    {y : Except TlsError IoState × Connection} (hrests : c.Rests y) : y.2.Regular := by
  cases hrests with
  | settled => exact h
  | @garbled stage e d hok hopen hpop =>
    have hrelays : c.Relays (.error e, { c with deframer := d }) :=
      ⟨.refl _, rfl, fun _ he => Except.error.inj he ▸ Deframer.pop_proper hpop⟩
    exact (hrelays.collects hopen).regular h fun _ => rfl
  | broken hok hopen hpop htake =>
    exact popped_regular hstart hm h hok hopen htake

theorem process_regular (hstart : c₀.Starts o hello) (hm : c₀.Moment c) (h : c.Regular) :
    c.process.2.Regular := by
  cases hstage : c.stage with
  | error e =>
    have hsame : c.process.2 = c := by rw [Connection.process, hstage]
    rw [hsame]
    exact h
  | ok stage =>
    obtain ⟨c₁, hpasses, hrests⟩ := process_passes hstage
    have hall : c₀.Moment c₁ ∧ c₁.Regular := by
      clear hrests
      induction hpasses with
      | refl => exact ⟨hm, h⟩
      | tail _ hpass ih => exact ⟨ih.1.passes hstart hpass, hpass.regular hstart ih.1 ih.2⟩
    exact hrests.regular hstart hall.1 hall.2

theorem Exchanges.regular (h : c.Regular) (hx : c.Exchanges c') : c'.Regular := by
  cases hx with
  | idle => exact h
  | arrives bs => exact ⟨h.incoming, h.outgoing, h.unread, h.lost, h.closed⟩
  | leaves n =>
    refine ⟨h.incoming, h.outgoing.drop n, h.unread, fun why hwhy => ?_, h.closed⟩
    have hempty : c.session.outgoing = {} := h.lost why hwhy
    show c.session.outgoing.drop n = {}
    rw [hempty]
    rfl
  | fails hstage e =>
    exact ⟨h.incoming, ByteQueue.solid_empty, h.unread, fun _ _ => rfl, fun _ => .inr (.inr ⟨e, rfl⟩)⟩
  | loses hstage => exact ⟨h.incoming, ByteQueue.solid_empty, h.unread, fun _ _ => rfl, h.closed⟩

/-- A call that adds to what is to be written, and does nothing where the connection is closed. -/
theorem Regular.talks (h : c.Regular) {s : Session} (hfills : Fills c.session s)
    (hincoming : s.incoming = c.session.incoming) (htraffic : s.traffic = c.session.traffic)
    (hopened : s.closeReceived = c.session.closeReceived)
    (hsame : ∀ e, c.stage = .error e → s = c.session) : ({ c with session := s } : Connection).Regular := by
  refine ⟨hfills.solid h.incoming, hfills.outgoing_solid h.outgoing, ?_, fun why hwhy => ?_, ?_⟩
  · show s.traffic = false → s.incoming = {}
    rw [htraffic, hincoming]
    exact h.unread
  · rw [hsame _ hwhy]
    exact h.lost why hwhy
  · show s.closeReceived = true → _ ∧ s.traffic = true ∨ _ ∧ s.traffic = false ∨ _
    rw [hopened, htraffic]
    exact h.closed

/-- A connection is closed just if it has failed or the peer has closed its side. -/
theorem Stands.closed_iff (h : c₀.Stands c) : c.session.status = .closed ↔
    c.session.closeReceived = true ∨ ∃ e, c.stage = .error e := by
  constructor
  · intro hclosed
    cases h with
    | heeds _ hheeds => exact absurd hclosed hheeds.alive
    | left _ _ _ hleft => exact .inl hleft.1
    | fallen hs => exact .inr ⟨_, hs⟩
  · intro hend
    cases h with
    | left _ hclosed => exact hclosed
    | fallen _ hfallen => exact hfallen.closed
    | heeds hs hheeds =>
      rcases hend with hclose | ⟨e, he⟩
      · exact absurd (hclose.symm.trans hheeds.opened) (by decide)
      · cases he.symm.trans hs

theorem call_regular (hstart : c₀.Starts o hello) (hm : c₀.Moment c) (h : c.Regular) (call : Call) :
    (c.call call).Regular := by
  have hrefused : ∀ e, c.stage = .error e → c.session.status ≠ .opened := by
    intro e he
    rw [hm.stands.closed_iff.mpr (.inr ⟨e, he⟩)]
    decide
  cases call with
  | readTls t => exact (exchanges_readTls c t).regular h
  | writeTls t => exact (exchanges_writeTls c t).regular h
  | process => exact process_regular hstart hm h
  | write bs =>
    exact h.talks (Session.fills_write _ _) (Session.still_write _ _).incoming
      (Session.talks_write _ _).traffic (Session.write_keepsOpen _ _)
      fun e he => congrArg Prod.snd (Session.write_refused (hrefused e he) bs)
  | read n =>
    refine ⟨h.incoming.drop n, h.outgoing, fun hf => ?_, h.lost, h.closed⟩
    have hempty : c.session.incoming = {} := h.unread hf
    show c.session.incoming.drop n = {}
    rw [hempty]
    rfl
  | close =>
    exact h.talks (Session.fills_sendClose _) (Session.proceeds_sendClose _).still.incoming
      (Session.talks_sendClose _).traffic (Session.sendClose_keepsOpen _)
      fun e he => Session.sendClose_refused (hrefused e he)

variable {config : Config} {time : Int} {random : RandomSource}

theorem start_regular (h : Connection.start config time random = .ok c) : c.Regular := by
  obtain ⟨o, hello, hstart, -⟩ := start_starts h
  have hfills := Stage.start_fills config time.toNat { random }
  have hstill := Stage.start_still config time.toNat { random }
  have hsession : c.session = ((Stage.start config time.toNat).run { random }).2 := by
    unfold Connection.start at h
    split at h
    · next hrun =>
      cases h
      rw [hrun]
    · cases h
  have hincoming : c.session.incoming = {} := by
    rw [hsession]
    exact hstill.incoming
  refine ⟨hincoming ▸ ByteQueue.solid_empty, ?_, fun _ => hincoming, fun why hwhy => ?_, fun hclosed => ?_⟩
  · rw [hsession]
    exact hfills.outgoing_solid ByteQueue.solid_empty
  · cases hwhy.symm.trans hstart.stage
  · exact absurd (hclosed.symm.trans hstart.closeReceived) (by decide)

/-- At every moment of a run a connection is regular. -/
theorem run_regular (h : Connection.start config time random = .ok c) (calls : List Call) :
    (c.run calls).Regular := by
  obtain ⟨o, hello, hstart, -⟩ := start_starts h
  induction calls using List.reverseRecOn with
  | nil => exact start_regular h
  | append_singleton calls call ih =>
    rw [run_append]
    exact call_regular hstart (moment_run h calls) ih call

/-! ## What has arrived -/

theorem takeRecord_fills (hopen : c.session.closeReceived = false) {d : Deframer}
    (htake : ({ c with deframer := d } : Connection).takeRecord stage wire = x) :
    Fills c.session x.2.session := by
  have hcollects := takeRecord_collects (c := { c with deframer := d }) hopen stage wire
  rw [htake] at hcollects
  exact hcollects.fills

theorem Passes.fills (hpass : c.Passes c') : Fills c.session c'.session := by
  cases hpass with
  | record hok hopen hpop htake => exact takeRecord_fills hopen htake

theorem Rests.fills {y : Except TlsError IoState × Connection} (hrests : c.Rests y) :
    Fills c.session y.2.session := by
  cases hrests with
  | settled => exact .refl _
  | garbled => exact Session.fills_abort _ _
  | broken hok hopen hpop htake => exact (takeRecord_fills hopen htake).trans (Session.fills_abort _ _)

/-- Taking in what has arrived only adds to what waits. -/
theorem process_fills (c : Connection) : Fills c.session c.process.2.session := by
  cases hstage : c.stage with
  | error e =>
    rw [Connection.process, hstage]
    exact .refl _
  | ok stage =>
    obtain ⟨c₁, hpasses, hrests⟩ := process_passes hstage
    refine Fills.trans ?_ hrests.fills
    clear hrests
    induction hpasses with
    | refl => exact .refl _
    | tail _ hpass ih => exact ih.trans hpass.fills

/-- Only a connection that has not failed takes anything in. -/
theorem stage_of_process {io : IoState} (h : c.process = (.ok io, c')) : ∃ stage, c.stage = .ok stage := by
  cases hstage : c.stage with
  | error e =>
    rw [Connection.process, hstage] at h
    cases h
  | ok stage => exact ⟨stage, rfl⟩

/-- What ends in order leaves nothing that could be taken in, unless the peer has closed its side. -/
theorem process_settled {io : IoState} (h : c.process = (.ok io, c')) : c'.Settled := by
  obtain ⟨stage, hstage⟩ := stage_of_process h
  obtain ⟨c₁, -, hrests⟩ := process_passes hstage
  rw [h] at hrests
  cases hrests with
  | settled hsettled => exact hsettled

/-- Taking in makes room, and never takes any. -/
theorem process_length_le (c : Connection) :
    c.process.2.deframer.buffer.length ≤ c.deframer.buffer.length := by
  cases hstage : c.stage with
  | error e =>
    rw [Connection.process, hstage]
  | ok stage =>
    obtain ⟨c₁, hpasses, hrests⟩ := process_passes hstage
    have hbefore : c₁.deframer.buffer.length ≤ c.deframer.buffer.length := by
      clear hrests
      induction hpasses with
      | refl => exact Nat.le_refl _
      | tail _ hpass ih => exact Nat.le_trans (Nat.le_of_lt hpass.length_lt) ih
    refine Nat.le_trans ?_ hbefore
    generalize c.process = x at hrests
    cases hrests with
    | settled => exact Nat.le_refl _
    | garbled hok hopen hpop => exact Nat.le_of_eq (congrArg List.length (Deframer.buffer_of_pop_error hpop))
    | @broken stage wire e d c' hok hopen hpop htake =>
      have hd := takeRecord_deframer { c₁ with deframer := d } stage wire
      rw [htake] at hd
      exact Nat.le_of_lt ((congrArg (fun d : Deframer => d.buffer.length) hd).trans_lt
        (Deframer.length_lt_of_pop hpop))

/-- The buffer holds no more than the longest record. -/
theorem call_fits (h : c.deframer.buffer.length ≤ Record.maxLength) (call : Call) :
    (c.call call).deframer.buffer.length ≤ Record.maxLength := by
  have hexchanges : ∀ {c'}, c.Exchanges c' → c'.deframer.buffer.length ≤ Record.maxLength := by
    intro c' hx
    cases hx with
    | arrives bs =>
      show (c.deframer.buffer ++ bs.take c.deframer.room).length ≤ _
      rw [List.length_append, List.length_take, Deframer.room]
      omega
    | _ => exact h
  cases call with
  | readTls t => exact hexchanges (exchanges_readTls c t)
  | writeTls t => exact hexchanges (exchanges_writeTls c t)
  | process => exact Nat.le_trans (process_length_le c) h
  | _ => exact h

theorem run_fits (h : c.deframer.buffer.length ≤ Record.maxLength) (calls : List Call) :
    (c.run calls).deframer.buffer.length ≤ Record.maxLength := by
  induction calls generalizing c with
  | nil => exact h
  | cons call calls ih => exact ih (call_fits h call)

/-! ## What can be reached -/

/-- A connection that some run leads to. -/
def Reached (c : Connection) : Prop :=
  ∃ config time random c₀ calls, Connection.start config time random = .ok c₀ ∧ c = c₀.run calls

theorem Reached.run (h : c.Reached) (calls : List Call) : (c.run calls).Reached := by
  obtain ⟨config, time, random, c₀, earlier, hstart, rfl⟩ := h
  exact ⟨config, time, random, c₀, earlier ++ calls, hstart, (run_append _ _ _).symm⟩

theorem Reached.moment (h : c.Reached) : ∃ (c₀ : Connection) (o : Origin) (hello : ClientHello),
    c₀.Starts o hello ∧ c₀.Moment c := by
  obtain ⟨config, time, random, c₀, calls, hstart, rfl⟩ := h
  obtain ⟨o, hello, hstarts, -⟩ := start_starts hstart
  exact ⟨c₀, o, hello, hstarts, moment_run hstart calls⟩

theorem Reached.regular (h : c.Reached) : c.Regular := by
  obtain ⟨config, time, random, c₀, calls, hstart, rfl⟩ := h
  exact run_regular hstart calls

theorem Reached.fits (h : c.Reached) : c.deframer.buffer.length ≤ Record.maxLength := by
  obtain ⟨config, time, random, c₀, calls, hstart, rfl⟩ := h
  obtain ⟨o, hello, hstarts, -⟩ := start_starts hstart
  exact run_fits (by rw [hstarts.deframer]; exact Nat.zero_le _) calls

theorem Reached.closed_iff (h : c.Reached) : c.session.status = .closed ↔
    c.session.closeReceived = true ∨ ∃ e, c.stage = .error e := by
  obtain ⟨c₀, o, hello, -, hm⟩ := h.moment
  exact hm.stands.closed_iff

/-- During a handshake that has not failed a connection wants just one of reading and writing. -/
theorem Reached.wants (h : c.Reached) (hhs : c.isHandshaking = true) (hok : c.stage = .ok stage) :
    c.wantsRead = !c.wantsWrite := by
  have hearly : c.session.traffic = false := by
    simpa [isHandshaking, Session.isHandshaking] using hhs
  have halive : c.session.status ≠ .closed := by
    intro hclosed
    rcases h.closed_iff.mp hclosed with hclose | ⟨e, he⟩
    · rcases h.regular.closed hclose with ⟨-, ht⟩ | ⟨he, -⟩ | ⟨why, he⟩
      · exact absurd (ht.symm.trans hearly) (by decide)
      · cases he.symm.trans hok
      · cases he.symm.trans hok
    · cases he.symm.trans hok
  have hnothing : c.session.hasPlaintext = false := by
    rw [Session.hasPlaintext, h.regular.unread hearly]
    rfl
  have hstatus : (c.session.status != .closed) = true := by simpa using halive
  rw [wantsRead, hok, hnothing, hhs, hstatus]
  rfl

end Connection

end TlsClient
