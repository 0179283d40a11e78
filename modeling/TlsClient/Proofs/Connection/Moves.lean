import TlsClient.Connection.Tls
import TlsClient.Proofs.Stage.Course

/-!
# The moves of a connection

Whatever is called, a connection changes in a few ways only: it talks, it opens a record, a message
that is waiting is taken in or declined, or it fails.  `Moves` lists them with all that the theory needs
to know about each.  Taking in what has arrived is a sequence of moves (`process_moves`), and so is every
run (`run_moves`), so what survives the moves holds at every moment of every run.
-/

namespace TlsClient

open Relation (ReflTransGen)
open Session (Talks)

namespace Session

/-- One session comes from another by opening a record. -/
def Opens (s : Session) (r : Record) (s' : Session) : Prop :=
  ∃ wire d, s.layer.receiving.unprotect wire = (.ok r, d) ∧
    s' = { s with layer := { s.layer with receiving := d } }.happened
      (.opened s.layer.receiving.isActive r)

/-- What becomes of a session by a record that ends the connection: it was not even opened, or it was. -/
inductive Hears (s : Session) : Session → Prop
  | nothing : Hears s s
  | unopened (wire : Record) (e : TlsError) (d : Direction)
    (h : s.layer.receiving.unprotect wire = (.error e, d)) :
    Hears s { s with layer := { s.layer with receiving := d } }
  | opened (r : Record) (s' : Session) (h : s.Opens r s') : Hears s s'

end Session

/-- The messages that a record completes are ready: those of a handshake record, or the one message
that another record is by itself. -/
inductive HandshakeJoiner.Completes (j : HandshakeJoiner) (r : Record) : HandshakeJoiner → Prop
  | joined (n : Nat) (j' : HandshakeJoiner) (hr : r.typ = .handshake) (h : j.push r = (.ok n, j')) :
    Completes j r j'
  | alone (m : Message) (hr : r.typ ≠ .handshake) (hj : j.buffer = [])
    (h : Message.ofRecord r = .ok m) : Completes j r { j with ready := [m] }

namespace Connection

/-- Whether a message is a request for another handshake, which is declined. -/
def Declines (c : Connection) (m : Message) : Prop :=
  c.session.traffic = true ∧ m.handshakeType? = some .helloRequest

/-- One change of a connection. -/
inductive Moves : Connection → Connection → Prop
  | talks {c c' : Connection} (hconfig : c'.config = c.config) (hstage : c'.stage = c.stage)
    (hjoin : c'.handshakes = c.handshakes) (h : Talks c.session c'.session) : Moves c c'
  | hears {c c' : Connection} {stage : Stage} {r : Record} {s : Session}
    (hok : c.stage = .ok stage) (hconfig : c'.config = c.config) (hstage : c'.stage = c.stage)
    (hjoin : c'.handshakes = c.handshakes) (hr : r.typ ≠ .handshake) (hopen : c.session.Opens r s)
    (h : Talks s c'.session) : Moves c c'
  | opens {c c' : Connection} {stage : Stage} {r : Record} (hok : c.stage = .ok stage)
    (hready : c.handshakes.ready = []) (hconfig : c'.config = c.config)
    (hstage : c'.stage = c.stage) (hopen : c.session.Opens r c'.session)
    (hjoin : c.handshakes.Completes r c'.handshakes) : Moves c c'
  | takes {c c' : Connection} {stage stage' : Stage} {m : Message} {rest : List Message}
    (hok : c.stage = .ok stage) (hready : c.handshakes.ready = m :: rest) (hm : ¬ c.Declines m)
    (hconfig : c'.config = c.config) (hstage : c'.stage = .ok stage')
    (hjoin : c'.handshakes = { c.handshakes with ready := rest })
    (h : (stage.handle c.config m).run (c.session.happened (.handled m))
      = (.ok stage', c'.session)) : Moves c c'
  | declines {c c' : Connection} {stage : Stage} {m : Message} {rest : List Message}
    (hok : c.stage = .ok stage) (hready : c.handshakes.ready = m :: rest) (hm : c.Declines m)
    (hconfig : c'.config = c.config) (hstage : c'.stage = c.stage)
    (hjoin : c'.handshakes = { c.handshakes with ready := rest })
    (h : Talks c.session c'.session) : Moves c c'
  | refuses {c c' : Connection} {stage : Stage} {m : Message} {rest : List Message} {e e' : TlsError}
    {s : Session} (hok : c.stage = .ok stage) (hready : c.handshakes.ready = m :: rest)
    (hconfig : c'.config = c.config) (hstage : c'.stage = .error e')
    (h : (stage.handle c.config m).run (c.session.happened (.handled m)) = (.error e, s))
    (htalk : Talks s c'.session) : Moves c c'
  | fails {c c' : Connection} {stage : Stage} {e : TlsError} {s : Session} (hok : c.stage = .ok stage)
    (hconfig : c'.config = c.config) (hstage : c'.stage = .error e) (hhear : c.session.Hears s)
    (h : Talks s c'.session) : Moves c c'

/-- The connection at a stage, with messages that wait for it. -/
def waiting (c : Connection) (stage : Stage) (ms : List Message) : Connection :=
  { c with stage := .ok stage, handshakes := { c.handshakes with ready := ms } }

/-- The moves lead from a connection to what taking something in came to. -/
def Leads (c₀ : Connection) : Except TlsError Stage × Connection → Prop
  | (.ok stage, c) => ReflTransGen Moves c₀ { c with stage := .ok stage } ∧ c.handshakes.ready = []
  | (.error e, c) => ReflTransGen Moves c₀ (c.fail e)

theorem leads_trans {c₀ c₁ : Connection} {x : Except TlsError Stage × Connection}
    (h : ReflTransGen Moves c₀ c₁) (hx : c₁.Leads x) : c₀.Leads x := by
  rcases x with ⟨e | stage, c⟩
  · exact h.trans hx
  · exact ⟨h.trans hx.1, hx.2⟩

/-- Delivering a message is one move. -/
theorem deliver_leads (c : Connection) (stage : Stage) (m : Message) (rest : List Message) :
    match c.deliver stage m with
    | (.ok stage', c') => Moves (c.waiting stage (m :: rest)) (c'.waiting stage' rest) ∧
        c'.handshakes = c.handshakes
    | (.error e, c') => Moves (c.waiting stage (m :: rest)) (c'.fail e) := by
  by_cases hm : c.session.traffic = true ∧ m.handshakeType? = some .helloRequest
  · rw [deliver, if_pos hm]
    exact ⟨.declines rfl rfl hm rfl rfl rfl (Session.talks_sendWarning _ _), rfl⟩
  · rw [deliver, if_neg hm]
    rcases h : (stage.handle c.config m).run (c.session.happened (.handled m)) with ⟨e | stage', s⟩
    · exact .refuses rfl rfl rfl rfl h (Session.talks_abort _ _)
    · exact ⟨.takes rfl rfl hm rfl rfl rfl h, rfl⟩

theorem deliverAll_leads (c : Connection) (stage : Stage) (ms : List Message)
    (hc : c.handshakes.ready = []) : (c.waiting stage ms).Leads (c.deliverAll stage ms) := by
  induction ms generalizing c stage with
  | nil =>
    refine ⟨?_, hc⟩
    have : c.waiting stage [] = { c with stage := .ok stage } := by
      rw [waiting, ← hc]
    rw [this]
  | cons m ms ih =>
    have hdeliver := deliver_leads c stage m ms
    unfold deliverAll
    rcases h : c.deliver stage m with ⟨e | stage', c'⟩
    · rw [h] at hdeliver
      exact .single hdeliver
    · rw [h] at hdeliver
      obtain ⟨hmove, hjoin⟩ := hdeliver
      exact leads_trans (.single hmove) (ih c' stage' (by rw [hjoin, hc]))

variable {c c' : Connection} {stage : Stage} {r : Record} {s : Session} {e : TlsError}

/-- An error ends the connection after a record that has just been opened. -/
theorem opened_fails (hopen : c.session.Opens r s) (hconfig : c'.config = c.config)
    (htalk : Talks s c'.session) :
    ({ c with stage := .ok stage } : Connection).Leads (.error e, c') :=
  .single (.fails rfl hconfig rfl (.opened r s hopen) (htalk.trans (Session.talks_abort _ _)))

theorem takeHandshakes_leads (hc : c.handshakes.ready = []) (hopen : c.session.Opens r s)
    (hr : r.typ = .handshake) : ({ c with stage := .ok stage } : Connection).Leads
      ({ c with session := s }.takeHandshakes stage r) := by
  unfold takeHandshakes
  rcases h : c.handshakes.push r with ⟨e | n, j⟩
  · exact opened_fails hopen rfl (.refl s)
  · refine leads_trans (.single ?_)
      (deliverAll_leads { c with session := s, handshakes := { j with ready := [] } } stage
        j.ready rfl)
    exact .opens rfl hc rfl rfl hopen (.joined n j hr h)

theorem takeAlerts_leads (hc : c.handshakes.ready = []) (hopen : c.session.Opens r s)
    (hr : r.typ ≠ .handshake) : ({ c with stage := .ok stage } : Connection).Leads
      ({ c with session := s }.takeAlerts stage r) := by
  unfold takeAlerts
  rcases h : s.receiveAlerts (c.alerts.push r).2.ready with ⟨e | u, s'⟩
  all_goals
    have htalk : Talks s s' := by
      have := Session.talks_receiveAlerts s (c.alerts.push r).2.ready
      rwa [h] at this
    simp only [h, Except.map]
  · exact opened_fails hopen rfl htalk
  · exact ⟨.single (.hears rfl rfl rfl rfl hr hopen htalk), hc⟩

theorem takeMessage_leads (hc : c.handshakes.ready = []) (hopen : c.session.Opens r s)
    (hr : r.typ ≠ .handshake) (hbuffer : c.handshakes.buffer = []) :
    ({ c with stage := .ok stage } : Connection).Leads
      ({ c with session := s }.takeMessage stage r) := by
  unfold takeMessage
  rcases h : Message.ofRecord r with e | m
  · exact opened_fails hopen rfl (.refl s)
  · have hopens : Moves { c with stage := .ok stage }
        ({ c with session := s }.waiting stage [m]) :=
      .opens rfl hc rfl rfl hopen (.alone m hr hbuffer h)
    have hdeliver := deliver_leads { c with session := s } stage m []
    dsimp only
    rcases hx : ({ c with session := s } : Connection).deliver stage m with ⟨e | stage', c'⟩
    · rw [hx] at hdeliver
      exact (ReflTransGen.single hopens).tail hdeliver
    · rw [hx] at hdeliver
      obtain ⟨hmove, hjoin⟩ := hdeliver
      have hready : c'.handshakes.ready = [] := by rw [hjoin]; exact hc
      have hwaiting : c'.waiting stage' [] = { c' with stage := .ok stage' } := by
        rw [waiting, ← hready]
      rw [hwaiting] at hmove
      exact ⟨(ReflTransGen.single hopens).tail hmove, hready⟩

/-- Taking in what was in a record that has just been opened. -/
theorem takeOpened_leads (hc : c.handshakes.ready = []) (hopen : c.session.Opens r s) :
    ({ c with stage := .ok stage } : Connection).Leads ({ c with session := s }.takeOpened stage r) := by
  unfold takeOpened
  split
  · exact opened_fails hopen rfl (Session.talks_abort _ _)
  · next hinside =>
    split
    · next hr => exact takeHandshakes_leads hc hopen hr
    · next hr =>
      split
      · exact takeAlerts_leads hc hopen hr
      · split
        · have hbuffer : c.handshakes.buffer = [] := by
            simpa [HandshakeJoiner.isEmpty, hr] using hinside
          exact takeMessage_leads hc hopen hr hbuffer
        · exact ⟨.single (.hears rfl rfl rfl rfl hr hopen (.single (.note s _))), hc⟩

/-- A record that cannot be opened changes nothing but the keys. -/
theorem takeRecord_refused {c : Connection} {wire : Record} {e : TlsError} {d : Direction}
    (h : c.session.layer.receiving.unprotect wire = (.error e, d)) (stage : Stage) :
    c.takeRecord stage wire = (.error e, { c with
      session := { c.session with layer := { c.session.layer with receiving := d } } }) := by
  rw [takeRecord, RecordLayer.unprotect, h]

theorem takeRecord_opened {c : Connection} {wire r : Record} {d : Direction}
    (h : c.session.layer.receiving.unprotect wire = (.ok r, d)) (stage : Stage) :
    c.takeRecord stage wire = ({ c with
      session := ({ c.session with layer := { c.session.layer with receiving := d } } : Session).happened
        (.opened c.session.layer.receiving.isActive r) } : Connection).takeOpened stage r := by
  rw [takeRecord, RecordLayer.unprotect, h]

theorem takeRecord_leads {c : Connection} {stage : Stage} (hc : c.handshakes.ready = [])
    (wire : Record) :
    ({ c with stage := .ok stage } : Connection).Leads (c.takeRecord stage wire) := by
  rcases h : c.session.layer.receiving.unprotect wire with ⟨e | r, d⟩
  · rw [takeRecord_refused h]
    exact .single (.fails rfl rfl rfl (.unopened wire e d h) (Session.talks_abort _ _))
  · rw [takeRecord_opened h]
    exact takeOpened_leads hc ⟨wire, d, h, rfl⟩

theorem takeRecords_leads {c : Connection} {stage : Stage} (hc : c.handshakes.ready = [])
    (fuel : Nat) : ({ c with stage := .ok stage } : Connection).Leads (takeRecords fuel c stage) := by
  have hsame : ∀ (c : Connection) (stage : Stage) (d : Deframer),
      Moves { c with stage := .ok stage } { c with stage := .ok stage, deframer := d } :=
    fun _ _ _ => .talks rfl rfl rfl (.refl _)
  induction fuel generalizing c stage with
  | zero => exact ⟨.refl, hc⟩
  | succ fuel ih =>
    unfold takeRecords
    split
    · exact ⟨.refl, hc⟩
    · rcases hpop : c.deframer.pop with ⟨e | _ | wire, d⟩
      · exact .single (.fails rfl rfl rfl .nothing (Session.talks_abort _ _))
      · exact ⟨.single (hsame c stage d), hc⟩
      · apply leads_trans (.single (hsame c stage d))
        have hrecord := @takeRecord_leads { c with deframer := d } stage hc wire
        dsimp only
        rcases h : ({ c with deframer := d } : Connection).takeRecord stage wire
          with ⟨e | stage', c'⟩
        · rw [h] at hrecord
          exact hrecord
        · rw [h] at hrecord
          exact leads_trans hrecord.1 (ih hrecord.2)

/-- Nothing waits between calls unless the connection has ended. -/
def Drained (c : Connection) : Prop := ∀ stage, c.stage = .ok stage → c.handshakes.ready = []

theorem process_moves {c : Connection} (hc : c.Drained) :
    ReflTransGen Moves c c.process.2 ∧ c.process.2.Drained := by
  unfold process
  rcases hstage : c.stage with e | stage
  · exact ⟨.refl, hc⟩
  · have hleads := @takeRecords_leads c stage (hc stage hstage)
      (c.deframer.buffer.length + 1)
    have hc' : { c with stage := .ok stage } = c := by rw [← hstage]
    rw [hc'] at hleads
    dsimp only
    rcases h : takeRecords (c.deframer.buffer.length + 1) c stage with ⟨e | stage', c'⟩
    · rw [h] at hleads
      exact ⟨hleads, fun stage' hs => by cases hs⟩
    · rw [h] at hleads
      exact ⟨hleads.1, fun _ _ => hleads.2⟩

end Connection

end TlsClient
