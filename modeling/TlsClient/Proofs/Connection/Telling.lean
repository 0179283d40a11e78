import TlsClient.Proofs.Connection.Arrival
import TlsClient.Proofs.Connection.Chunking
import TlsClient.Proofs.Record.Streams
import TlsClient.Proofs.Stage.Memory

/-!
# Being told a stream of messages

While nothing is protected a record of handshake bytes has its messages delivered, or it fails because
they show a fault.  So taking in a stream of such records comes to being told what is joined from them:
the messages, one after another, and then the fault if there is one (`drain_told`).
-/

namespace TlsClient

open HandshakeJoiner (fault left messages told)

namespace Record

/-- The record that carries some handshake bytes. -/
def ofHandshake (bs : Bytes) : Record := { typ := .handshake, version := .tls1, payload := bs }

/-- The bytes of the records that carry pieces of a handshake. -/
def stream (xs : List Bytes) : Bytes := xs.flatMap fun x => (ofHandshake x).encode

end Record

theorem HandshakeJoiner.typ_of_mem_messages {bs : Bytes} {m : Message} (h : m ∈ messages bs) :
    m.body.typ = .handshake := by
  obtain ⟨new, hready, -, hnew⟩ := split_bytes .tls1 bs.length { buffer := bs }
  rw [messages, hready] at h
  exact (hnew m h).typ

namespace Connection

variable {o : Origin} {c c' k : Connection} {stage stage' : Stage} {m : Message} {ms : List Message}

/-! ## Connections that do the same -/

/-- Two outcomes that differ in what was remembered, and in what has arrived, at most. -/
structure Matches (x y : Except TlsError Stage × Connection) : Prop where
  result : y.1 = x.1
  config : y.2.config = x.2.config
  session : x.2.session.Alike y.2.session

theorem deliver_matches (hconfig : k.config = c.config) (h : c.session.Alike k.session) (stage : Stage)
    (m : Message) : Matches (c.deliver stage m) (k.deliver stage m) := by
  have htraffic : k.session.traffic = c.session.traffic := by
    obtain ⟨past, hk, -⟩ := h
    rw [hk]
  by_cases hm : c.session.traffic = true ∧ m.handshakeType? = some .helloRequest
  · rw [deliver, deliver, if_pos hm, if_pos (htraffic ▸ hm)]
    exact ⟨rfl, hconfig, Session.blind_sendWarning _ h⟩
  · obtain ⟨hresult, hsession⟩ := Stage.handle_blind c.config stage m (h.happened (.handled m))
    rw [deliver, deliver, if_neg hm, if_neg (htraffic ▸ hm), hconfig]
    exact ⟨hresult, rfl, hsession⟩

theorem deliverAll_matches (hconfig : k.config = c.config) (h : c.session.Alike k.session)
    (stage : Stage) (ms : List Message) : Matches (c.deliverAll stage ms) (k.deliverAll stage ms) := by
  induction ms generalizing c k stage with
  | nil => exact ⟨rfl, hconfig, h⟩
  | cons m ms ih =>
    have hfirst := deliver_matches hconfig h stage m
    unfold deliverAll
    rcases hc : c.deliver stage m with ⟨e | stage', c'⟩
    all_goals
      rcases hk : k.deliver stage m with ⟨r, k'⟩
      rw [hc, hk] at hfirst
      obtain ⟨hresult, hconfig', hsession⟩ := hfirst
      subst hresult
    · exact ⟨rfl, hconfig', hsession⟩
    · exact ih hconfig' hsession stage'

theorem deliverAll_append (c : Connection) (stage : Stage) (ms ms' : List Message) :
    c.deliverAll stage (ms ++ ms') = match c.deliverAll stage ms with
      | (.ok stage, c) => c.deliverAll stage ms'
      | failed => failed := by
  induction ms generalizing c stage with
  | nil => rfl
  | cons m ms ih =>
    rw [List.cons_append, deliverAll, deliverAll]
    rcases c.deliver stage m with ⟨e | stage', c'⟩
    · rfl
    · exact ih c' stage'

/-- Delivering changes the session alone. -/
theorem deliver_session (c : Connection) (stage : Stage) (m : Message) :
    ∃ s, (c.deliver stage m).2 = { c with session := s } := by
  unfold deliver
  split
  · exact ⟨_, rfl⟩
  · exact ⟨_, rfl⟩

theorem deliverAll_session (c : Connection) (stage : Stage) (ms : List Message) :
    ∃ s, (c.deliverAll stage ms).2 = { c with session := s } := by
  induction ms generalizing c stage with
  | nil => exact ⟨c.session, rfl⟩
  | cons m ms ih =>
    obtain ⟨s, hs⟩ := deliver_session c stage m
    unfold deliverAll
    rcases hfirst : c.deliver stage m with ⟨e | stage', c'⟩
    all_goals
      rw [hfirst] at hs
      obtain rfl : c' = _ := hs
    · exact ⟨s, rfl⟩
    · obtain ⟨s', hs'⟩ := ih { c with session := s } stage'
      exact ⟨s', hs'⟩

/-! ## Being told a stream -/

/-- Gives messages to the stages one after another, and fails behind them if there is a fault. -/
def tell (c : Connection) (stage : Stage) (x : List Message × Option DecodeError) :
    Except TlsError Stage × Connection :=
  match c.deliverAll stage x.1, x.2 with
  | (.ok _, c), some e => (.error (.malformed e), c)
  | outcome, _ => outcome

theorem tell_append (c : Connection) (stage : Stage) (ms ms' : List Message)
    (f : Option DecodeError) : c.tell stage (ms ++ ms', f) = match c.deliverAll stage ms with
      | (.ok stage, c) => c.tell stage (ms', f)
      | failed => failed := by
  rw [tell, deliverAll_append]
  rcases c.deliverAll stage ms with ⟨e | stage', c'⟩
  · cases f <;> rfl
  · rfl

/-! ## Unprotected records -/

/-- A connection that takes in unprotected records at a stage. -/
structure Attends (o : Origin) (c : Connection) (stage : Stage) : Prop where
  sound : ({ c with stage := .ok stage } : Connection).Sound o
  ready : c.handshakes.ready = []
  opened : c.session.closeReceived = false
  unkeyed : c.session.layer.receiving.isActive = false

/-- No handshake message starts the protection of what is received. -/
theorem receiving_of_takes {config : Config} {src src' : RandomSource} {act : Stage.Act}
    (h : stage.Takes config src m act stage' src') (hm : m.body.typ = .handshake) {d : Direction}
    (hd : d.isActive = false) : (act.receiving d).isActive = false := by
  cases h with
  | keyChange hbody =>
    rw [hbody] at hm
    cases hm
  | reply => rfl
  | _ => exact hd

theorem deliver_unkeyed (h : c.Receptive stage) (hm : m.body.typ = .handshake)
    (hkeys : c.session.layer.receiving.isActive = false)
    (hdeliver : c.deliver stage m = (.ok stage', c')) :
    c'.session.layer.receiving.isActive = false ∧
      c'.session.closeReceived = c.session.closeReceived := by
  by_cases hdecline : c.session.traffic = true ∧ m.handshakeType? = some .helloRequest
  · rw [deliver, if_pos hdecline] at hdeliver
    cases hdeliver
    have htalks := Session.talks_sendWarning c.session .noRenegotiation
    exact ⟨htalks.receiving ▸ hkeys, (Session.utters_send _ _).closeReceived⟩
  · have hopened := Stage.handle_keepsOpen c.config stage m (c.session.happened (.handled m))
    rw [deliver, if_neg hdecline] at hdeliver
    rcases Stage.handle_settles c.config stage m (s := c.session.happened (.handled m)) h.idle with
      ⟨act, stage'', s, ht, hrun, hact⟩ | ⟨-, e, s, hrun, -⟩
    all_goals
      rw [hrun] at hdeliver hopened
      cases hdeliver
    have hreceiving := performed_receiving (s := c.session.happened (.handled m)) hact
    refine ⟨?_, hopened⟩
    show s.layer.receiving.isActive = false
    rw [hreceiving]
    exact receiving_of_takes ht hm hkeys

/-- Delivering handshake messages to a connection that attends leaves it attending. -/
theorem deliverAll_attends (hsound : (c.waiting stage ms).Sound o) (hready : c.handshakes.ready = [])
    (hms : ∀ m ∈ ms, m.body.typ = .handshake) (hopened : c.session.closeReceived = false)
    (hkeys : c.session.layer.receiving.isActive = false)
    (hdeliver : c.deliverAll stage ms = (.ok stage', c')) : c'.Attends o stage' := by
  induction ms generalizing c stage with
  | nil =>
    have hwaiting : c.waiting stage [] = { c with stage := .ok stage } := by rw [waiting, ← hready]
    cases hdeliver
    exact ⟨hwaiting ▸ hsound, hready, hopened, hkeys⟩
  | cons m ms ih =>
    obtain ⟨hm, hms⟩ := List.forall_mem_cons.mp hms
    have hmove := deliver_leads c stage m ms
    unfold deliverAll at hdeliver
    rcases hfirst : c.deliver stage m with ⟨e | stage₁, c₁⟩
    · rw [hfirst] at hdeliver
      cases hdeliver
    · rw [hfirst] at hdeliver hmove
      obtain ⟨hmove, hjoin⟩ := hmove
      obtain ⟨hidle, htraffic⟩ :=
        @Sound.receptive o { c with handshakes := ⟨m :: ms, c.handshakes.buffer⟩ } stage hsound
      have hreceptive : c.Receptive stage := ⟨hidle, htraffic⟩
      obtain ⟨hkeys₁, hopened₁⟩ := deliver_unkeyed hreceptive hm hkeys hfirst
      exact ih (hsound.step hmove) (hjoin ▸ hready) hms (hopened₁.trans hopened) hkeys₁ hdeliver

/-- What a connection becomes when a record of handshake bytes has been joined to those that wait. -/
def joined (c : Connection) (x : Bytes) : Connection :=
  { c with
    session := c.session.happened (.opened false (.ofHandshake x))
    handshakes := { buffer := left (c.handshakes.buffer ++ x) } }

/-- What is received without protection is taken in as it is. -/
theorem takeRecord_unkeyed (hkeys : c.session.layer.receiving.isActive = false) (stage : Stage)
    (r : Record) : c.takeRecord stage r =
      { c with session := c.session.happened (.opened false r) }.takeOpened stage r := by
  have hopen : c.session.layer.receiving.unprotect r = (.ok r, c.session.layer.receiving) := by
    rw [Direction.unprotect, hkeys]
    rfl
  rw [takeRecord_opened hopen, hkeys]

theorem takeOpened_handshake (stage : Stage) (x : Bytes) :
    c.takeOpened stage (.ofHandshake x) = c.takeHandshakes stage (.ofHandshake x) := by
  have htype : (Record.ofHandshake x).typ = .handshake := rfl
  rw [takeOpened, if_neg (by simp [htype]), if_pos htype]

/-- A record whose bytes show a fault fails with it, and what it completed before the fault is lost. -/
theorem Attends.takeRecord_fault (h : c.Attends o stage) {x : Bytes} (hx : x ≠ []) {e : DecodeError}
    (hfault : fault (c.handshakes.buffer ++ x) = some e) :
    ∃ j, c.takeRecord stage (.ofHandshake x) =
      (.error (.malformed e), { c.joined x with handshakes := j }) := by
  obtain ⟨hpush, -⟩ := HandshakeJoiner.push_splits (r := .ofHandshake x) h.ready rfl hx
  rw [takeRecord_unkeyed h.unkeyed, takeOpened_handshake, takeHandshakes]
  dsimp only
  rcases hj : c.handshakes.push (.ofHandshake x) with ⟨e' | n, j⟩
  all_goals
    rw [hj] at hpush
    cases hpush.trans hfault
  exact ⟨j, rfl⟩

/-- Any other record has its messages delivered. -/
theorem Attends.takeRecord_joined (h : c.Attends o stage) {x : Bytes} (hx : x ≠ [])
    (hfault : fault (c.handshakes.buffer ++ x) = none) :
    c.takeRecord stage (.ofHandshake x) =
      (c.joined x).deliverAll stage (messages (c.handshakes.buffer ++ x)) := by
  obtain ⟨hpush, hjoin⟩ := HandshakeJoiner.push_splits (r := .ofHandshake x) h.ready rfl hx
  rw [takeRecord_unkeyed h.unkeyed, takeOpened_handshake, takeHandshakes]
  dsimp only
  rcases hj : c.handshakes.push (.ofHandshake x) with ⟨e' | n, j⟩
  all_goals rw [hj] at hpush hjoin
  · cases hpush.trans hfault
  · obtain rfl : j = _ := hjoin
    rfl

/-- The messages of such a record wait. -/
theorem Attends.joined_waits (h : c.Attends o stage) {x : Bytes} (hx : x ≠ [])
    (hfault : fault (c.handshakes.buffer ++ x) = none) :
    ((c.joined x).waiting stage (messages (c.handshakes.buffer ++ x))).Sound o := by
  obtain ⟨hpush, hjoin⟩ := HandshakeJoiner.push_splits (r := .ofHandshake x) h.ready rfl hx
  have hopen : c.session.Opens (.ofHandshake x)
      (c.session.happened (.opened false (.ofHandshake x))) := by
    refine ⟨.ofHandshake x, c.session.layer.receiving, ?_, ?_⟩
    · rw [Direction.unprotect, h.unkeyed]
      rfl
    · rw [h.unkeyed]
  rcases hj : c.handshakes.push (.ofHandshake x) with ⟨e | n, j⟩
  all_goals rw [hj] at hpush hjoin
  · cases hpush.trans hfault
  · obtain rfl : j = _ := hjoin
    exact h.sound.step (.opens rfl h.ready rfl rfl hopen (.joined n _ rfl hj))

/-- A connection that attends still does when the messages of a record have been delivered. -/
theorem Attends.joined (h : c.Attends o stage) {x : Bytes} (hx : x ≠ [])
    (hfault : fault (c.handshakes.buffer ++ x) = none)
    (hdeliver : (c.joined x).deliverAll stage (messages (c.handshakes.buffer ++ x))
      = (.ok stage', c')) :
    c'.Attends o stage' ∧ c'.handshakes.buffer = left (c.handshakes.buffer ++ x) ∧
      c'.deframer = c.deframer := by
  obtain ⟨s, hs⟩ := deliverAll_session (c.joined x) stage (messages (c.handshakes.buffer ++ x))
  have hattends := deliverAll_attends (h.joined_waits hx hfault) rfl
    (fun m hm => HandshakeJoiner.typ_of_mem_messages hm) h.opened h.unkeyed hdeliver
  rw [hdeliver] at hs
  obtain rfl : c' = _ := hs
  exact ⟨hattends, rfl, rfl⟩

/-! ## A whole stream -/

/-- Taking in a stream of handshake records comes to being told what is joined from them. -/
theorem drain_told (h : c.Attends o stage) {xs : List Bytes}
    (hxs : ∀ x ∈ xs, x ≠ [] ∧ x.length ≤ Record.maxPayload)
    (hd : c.deframer = { buffer := Record.stream xs }) (hconfig : k.config = c.config)
    (halike : c.session.Alike k.session) :
    Matches (c.drain stage) (k.tell stage (told c.handshakes.buffer xs)) := by
  induction xs generalizing c k stage with
  | nil =>
    have hwaiting : c.deframer.pop.1 = .ok none := by rw [hd]; rfl
    rw [drain_waiting hwaiting]
    exact ⟨rfl, hconfig, halike⟩
  | cons x xs ih =>
    obtain ⟨⟨hx, hlength⟩, hxs⟩ := List.forall_mem_cons.mp hxs
    have hpop : c.deframer.pop =
        (.ok (some (.ofHandshake x)), { buffer := Record.stream xs }) := by
      rw [hd]
      exact Deframer.pop_encode rfl ⟨rfl, hlength⟩ rfl
    -- the record is out of the buffer before it is taken in
    set c₁ : Connection := { c with deframer := { buffer := Record.stream xs } } with hc₁
    have h₁ : c₁.Attends o stage :=
      ⟨h.sound.step (.talks rfl rfl rfl (.refl _)), h.ready, h.opened, h.unkeyed⟩
    have hopened : ¬ c.session.closeReceived = true := by rw [h.opened]; decide
    rw [drain_record hopened hpop, ← hc₁, told]
    cases hfault : fault (c.handshakes.buffer ++ x) with
    | some e =>
      obtain ⟨j, htake⟩ := h₁.takeRecord_fault hx hfault
      rw [htake]
      exact ⟨rfl, hconfig, halike.opened _ _⟩
    | none =>
      have htake : c₁.takeRecord stage (.ofHandshake x) =
          (c₁.joined x).deliverAll stage (messages (c.handshakes.buffer ++ x)) :=
        h₁.takeRecord_joined hx hfault
      have hmatch := @deliverAll_matches (c₁.joined x) k hconfig (halike.opened _ _) stage
        (messages (c.handshakes.buffer ++ x))
      rw [tell_append, htake]
      rcases hdeliver : (c₁.joined x).deliverAll stage (messages (c.handshakes.buffer ++ x))
        with ⟨e | stage₂, c₂⟩
      all_goals
        rcases hk : k.deliverAll stage (messages (c.handshakes.buffer ++ x)) with ⟨r, k₂⟩
        rw [hdeliver, hk] at hmatch
        obtain ⟨hresult, hconfig₂, halike₂⟩ := hmatch
        subst hresult
      · exact ⟨rfl, hconfig₂, halike₂⟩
      · obtain ⟨h₂, hbuffer, hd₂⟩ := h₁.joined hx hfault hdeliver
        have hnext := ih h₂ hxs hd₂ hconfig₂ halike₂
        rw [hbuffer] at hnext
        exact hnext

end Connection

end TlsClient
