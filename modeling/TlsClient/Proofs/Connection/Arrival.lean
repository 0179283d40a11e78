import TlsClient.Proofs.Connection.Completing
import TlsClient.Proofs.Connection.Order
import TlsClient.Proofs.Record.Cutting

/-!
# Arrival

The bytes of a handshake arrive in whatever pieces the transport gives, between whatever else the user
calls.  A connection `Awaits` what leads on: the records that it has buffered or that are still to come
(`Awaits.call`), and when all of them have arrived and been taken in the handshake is over
(`Starts.delivered`).  With the order of runs this says just when a handshake is over
(`handshake_ordered`).
-/

namespace TlsClient

open Deeds (handled)
open Session (Talks)

namespace Connection

/-! ## What a connection waits for -/

/-- A connection at a stage has to take in only records that lead on; their bytes are what is buffered
and what is still to come. -/
structure Awaits (c : Connection) (stage : Stage) (todo : List Record) (rest : Bytes) : Prop where
  ready : c.handshakes.ready = []
  opened : c.session.closeReceived = false
  synced : c.deframer.desynced = false
  leads : c.config.LeadsOn (c.core stage) todo
  bytes : c.deframer.buffer ++ rest = todo.flatMap Record.encode

variable {o : Origin} {hello : ClientHello} {c c' : Connection} {stage : Stage} {todo : List Record}
  {rest : Bytes}

/-- When all has arrived, one look at the buffer tells whether a record is there. -/
theorem Awaits.pop (h : c.Awaits stage todo rest) :
    c.deframer.pop = (.ok none, c.deframer) ∧ (rest = [] → todo = []) ∨
      ∃ wire todo' buffer, todo = wire :: todo' ∧
        c.deframer.pop = (.ok (some wire), { c.deframer with buffer }) ∧
        buffer ++ rest = todo'.flatMap Record.encode ∧ buffer.length < c.deframer.buffer.length := by
  have hbytes := h.bytes
  cases h.leads with
  | complete =>
    exact .inl ⟨Deframer.pop_empty h.synced (List.append_eq_nil_iff.mp hbytes).1, fun _ => rfl⟩
  | @record _ wire r d k todo' hfits hopen heffect hleads =>
    rw [List.flatMap_cons] at hbytes
    rcases Nat.lt_or_ge c.deframer.buffer.length wire.encode.length with hlt | hge
    · -- the record has not arrived as a whole
      obtain ⟨more, hwire⟩ : c.deframer.buffer <+: wire.encode :=
        List.prefix_of_prefix_length_le ⟨rest, hbytes⟩ (List.prefix_append _ _) (by omega)
      have hmore : more ≠ [] := by
        rintro rfl
        rw [← hwire, List.append_nil] at hlt
        omega
      refine .inl ⟨Deframer.pop_beginning h.synced hfits hmore hwire.symm, ?_⟩
      rintro rfl
      rw [List.append_nil] at hbytes
      rw [hbytes, List.length_append] at hlt
      omega
    · obtain ⟨buffer, hbuffer⟩ : wire.encode <+: c.deframer.buffer :=
        List.prefix_of_prefix_length_le (List.prefix_append _ _) ⟨rest, hbytes⟩ hge
      rw [← hbuffer, List.append_assoc, List.append_cancel_left_eq] at hbytes
      refine .inr ⟨wire, todo', buffer, rfl,
        Deframer.pop_encode h.synced hfits hbuffer.symm, hbytes, ?_⟩
      obtain ⟨l₁, l₂, -, henc⟩ := Record.encode_cons hfits.1 (Record.lt_of_le_maxPayload hfits.2)
      rw [← hbuffer, henc, List.length_append, List.length_cons]
      omega

/-- Taking in what has arrived leads on: everything if nothing is still to come. -/
theorem takeRecords_awaits (hsound : ({ c with stage := .ok stage } : Connection).Sound o)
    (h : c.Awaits stage todo rest) {fuel : Nat} (hfuel : c.deframer.buffer.length < fuel) :
    ∃ stage' c' todo', takeRecords fuel c stage = (.ok stage', c') ∧ c'.Awaits stage' todo' rest ∧
      (rest = [] → todo' = []) := by
  induction fuel generalizing c stage todo with
  | zero => omega
  | succ fuel ih =>
    unfold takeRecords
    rw [h.opened, if_neg (by decide)]
    rcases h.pop with ⟨hpop, hdone⟩ | ⟨wire, todo', buffer, rfl, hpop, hbytes, hlt⟩
    · rw [hpop]
      exact ⟨stage, c, todo, rfl, h, hdone⟩
    · cases h.leads with
      | @record _ _ r d k _ hfits hopen heffect hleads =>
        -- the record is out of the buffer before it is taken in
        have hpopped : ({ c with deframer := { c.deframer with buffer }, stage := .ok stage } :
            Connection).Sound o := hsound.step (.talks rfl rfl rfl (.refl _))
        obtain ⟨c', htake, hcore, hready, hdeframer, hclose⟩ :=
          @takeRecord_effect { c with deframer := { c.deframer with buffer } } stage wire r d k
            hpopped.receptive h.ready hopen heffect
        have htaken : ({ c' with stage := .ok k.stage } : Connection).Sound o := by
          have hmoves := @takeRecord_leads { c with deframer := { c.deframer with buffer } } stage
            h.ready wire
          rw [htake] at hmoves
          exact hpopped.moves hmoves.1
        have hconfig : c'.config = c.config := htaken.config.trans hsound.config.symm
        have hnext : c'.Awaits k.stage todo' rest := by
          refine ⟨hready, hclose.trans h.opened, hdeframer ▸ h.synced, ?_, hdeframer ▸ hbytes⟩
          rw [hconfig, hcore]
          exact hleads
        rw [hpop]
        dsimp only
        rw [htake]
        exact ih htaken hnext (by rw [hdeframer]; change buffer.length < fuel; omega)

/-! ## Calls -/

/-- The bytes that arrive by a call. -/
def arriving (c : Connection) : Call → Bytes
  | .readTls t =>
    if c.session.closeReceived ∨ c.deframer.isFull then []
    else
      match (t.read c.deframer.room).1 with
      | .ok bs => bs
      | .error _ => []
  | _ => []

/-- The bytes that arrive by some calls. -/
def received (c : Connection) : List Call → Bytes
  | [] => []
  | call :: calls => c.arriving call ++ (c.call call).received calls

/-- The connection has ended because its transport failed. -/
def CutOff (c : Connection) : Prop := ∃ e, c.stage = .error (.transport e)

/-- The connection waits at a stage of its own, or it was cut off. -/
def Waits (c : Connection) (rest : Bytes) : Prop :=
  (∃ stage todo, c.stage = .ok stage ∧ c.Awaits stage todo rest) ∨ c.CutOff

theorem Awaits.talks (h : c.Awaits stage todo rest) {s : Session} (ht : Talks c.session s)
    (hs : s.closeReceived = c.session.closeReceived) :
    ({ c with session := s } : Connection).Awaits stage todo rest := by
  refine ⟨h.ready, hs.trans h.opened, h.synced, ?_, h.bytes⟩
  have hcore : ({ c with session := s } : Connection).core stage = c.core stage := by
    rw [core, ht.random, ht.receiving]
    rfl
  rw [hcore]
  exact h.leads

theorem Awaits.transportFailed (h : c.Awaits stage todo rest) (hstage : c.stage = .ok stage)
    (e : IoError) : (c.transportFailed e).Waits rest := by
  unfold Connection.transportFailed
  split
  · exact .inl ⟨stage, todo, hstage, h⟩
  · rw [hstage]
    exact .inr ⟨e, rfl⟩

theorem Awaits.process (h : c.Awaits stage todo rest) (hsound : c.Sound o)
    (hstage : c.stage = .ok stage) : ∃ stage' todo', c.process.2.stage = .ok stage' ∧
      c.process.2.Awaits stage' todo' rest ∧ (rest = [] → todo' = []) := by
  have hc : ({ c with stage := .ok stage } : Connection) = c := by rw [← hstage]
  obtain ⟨stage', c', todo', htake, hawaits, hdone⟩ :=
    takeRecords_awaits (hc.symm ▸ hsound) h (Nat.lt_succ_self _)
  unfold Connection.process
  simp only [hstage, htake]
  exact ⟨stage', todo', rfl, ⟨hawaits.ready, hawaits.opened, hawaits.synced, hawaits.leads,
    hawaits.bytes⟩, hdone⟩

/-- Every call leaves a connection waiting for what has not arrived yet. -/
theorem Awaits.call (call : Call) (h : c.Awaits stage todo (c.arriving call ++ rest))
    (hsound : c.Sound o) (hstage : c.stage = .ok stage) : (c.call call).Waits rest := by
  cases call with
  | readTls t =>
    show (c.readTls t).2.1.Waits rest
    unfold arriving at h
    unfold Connection.readTls
    simp only [h.opened, Bool.false_eq_true, false_or, if_false] at h ⊢
    split
    · next hfull =>
      rw [if_pos hfull] at h
      exact .inl ⟨stage, todo, hstage, h⟩
    · next hfull =>
      rw [if_neg hfull] at h
      rcases hread : t.read c.deframer.room with ⟨e | bs, t'⟩
      · rw [hread] at h
        exact h.transportFailed hstage e
      · rw [hread] at h
        refine .inl ⟨stage, todo, hstage, h.ready, h.opened, h.synced, h.leads, ?_⟩
        have hbs : bs.length ≤ c.deframer.room := Transport.length_read (by rw [hread])
        show (c.deframer.push bs).buffer ++ rest = _
        rw [Deframer.push_eq_extend hbs, Deframer.extend, List.append_assoc]
        exact h.bytes
  | writeTls t =>
    show (c.writeTls t).2.1.Waits rest
    unfold Connection.writeTls
    split
    · exact .inl ⟨stage, todo, hstage, h⟩
    · split
      · next n _ _ =>
        exact .inl ⟨stage, todo, hstage, h.talks (.single (.keep c.session c.session.status
          c.session.closeReceived c.session.incoming c.session.early
          (c.session.outgoing.drop n))) rfl⟩
      · exact h.transportFailed hstage _
  | process =>
    obtain ⟨stage', todo', hstage', hawaits, -⟩ := h.process hsound hstage
    exact .inl ⟨stage', todo', hstage', hawaits⟩
  | write bs =>
    exact .inl ⟨stage, todo, hstage,
      h.talks (Session.talks_write c.session bs) (c.session.write_keepsOpen bs)⟩
  | read n => exact .inl ⟨stage, todo, hstage, h.talks (Session.talks_read c.session n) rfl⟩
  | close =>
    exact .inl ⟨stage, todo, hstage,
      h.talks (Session.talks_sendClose c.session) c.session.sendClose_keepsOpen⟩

theorem Awaits.run (calls : List Call) (h : c.Awaits stage todo (c.received calls))
    (hsound : c.Sound o) (hstage : c.stage = .ok stage) : (c.run calls).Waits [] := by
  induction calls generalizing c stage todo with
  | nil => exact .inl ⟨stage, todo, hstage, h⟩
  | cons call calls ih =>
    have hmoves := (call_moves (fun _ _ => h.ready) call).1
    rcases Awaits.call call h hsound hstage with ⟨stage', todo', hstage', h'⟩ | ⟨e, he⟩
    · exact ih h' (hsound.moves hmoves) hstage'
    · exact .inr ⟨e, run_ended he calls⟩

variable {calls : List Call} {ms : List Message} {wires : List Record}

/-- When the records of a whole handshake have arrived and been taken in, the handshake is over. -/
theorem Starts.delivered (h : c.Starts o hello)
    (hdelivers : o.config.Delivers o.stage o.random {} ms wires)
    (hreceived : c.received calls = wires.flatMap Record.encode) :
    (c.run (calls ++ [.process])).progress = .done ∨ (c.run calls).CutOff := by
  have hawaits : c.Awaits o.stage wires (c.received calls) := by
    refine ⟨by rw [h.handshakes], h.closeReceived, by rw [h.deframer], ?_, ?_⟩
    · rw [h.config, core, h.random, h.layer, h.handshakes]
      exact hdelivers.leadsOn
    · rw [h.deframer, hreceived]
      rfl
  rcases hawaits.run calls h.sound h.stage with ⟨stage, todo, hstage, hrun⟩ | hcut
  · left
    obtain ⟨stage', todo', hstage', hawaits', hdone⟩ :=
      hrun.process (h.sound_run calls) hstage
    obtain rfl := hdone rfl
    rw [run_append]
    show (c.run calls).process.2.progress = .done
    cases hawaits'.leads with
    | complete htraffic => rw [progress, hstage', show stage' = .traffic from htraffic]; rfl
  · exact .inr hcut

/-- A connection that has just started reads all bytes of a piece that fits. -/
theorem Starts.readTls_piece (h : c.Starts o hello) {bs : Bytes} (hlength : bs.length ≤ Record.maxLength) :
    c.received [.readTls { deliveries := [.data bs] }] = bs ∧
      (c.run [.readTls { deliveries := [.data bs] }]).stage = .ok o.stage := by
  have hroom : bs.length ≤ c.deframer.room := by
    rw [h.deframer]
    exact hlength
  constructor
  · have hfull : ¬ (c.session.closeReceived = true ∨ c.deframer.isFull = true) := by
      rw [h.closeReceived, h.deframer]
      decide
    obtain ⟨t, ht⟩ := read_data bs c.deframer.room
    rw [received, received, arriving, if_neg hfull, ht, List.take_of_length_le hroom, List.append_nil]
  · have hsettled : c.Settled := ⟨⟨_, h.stage⟩, .inr (by rw [h.deframer]; rfl)⟩
    obtain ⟨-, t, ht⟩ := readTls_settled hsettled (by simp [h.closeReceived]) bs
    show (c.readTls _).2.1.stage = _
    rw [ht]
    exact h.stage

/-- How the end of a handshake and the messages of the server hang together. -/
structure Ordered (c : Connection) : Prop where
  completed : ∀ calls, (c.run calls).progress = .done → ∃ before m after suite asks secrets,
    c.Completed (c.run calls).session.deeds before m after suite asks secrets
  delivered : ∀ calls stage ms wires, c.stage = .ok stage →
    c.config.Delivers stage c.session.random {} ms wires →
    c.received calls = wires.flatMap Record.encode →
    (c.run (calls ++ [.process])).progress = .done ∨ (c.run calls).CutOff
  /-- A message that is not the next of a handshake is the last that is handled. -/
  deviates : ∀ calls before m after, (c.run calls).session.deeds = before ++ .handled m :: after →
    c.Continues before m ∨ handled after = [] ∧ (c.run calls).progress = .failed

/-- In every run the handshake is over only after the messages of the suite in their order, with the right
proof at their end; it is over once such messages have been delivered, and at the first message that deviates
the connection has failed. -/
theorem handshake_ordered {config : Config} {time : Int} {random : RandomSource}
    (h : Connection.start config time random = .ok c) : c.Ordered := by
  obtain ⟨o, hello, hstarts, -⟩ := start_starts h
  refine ⟨fun calls => hstarts.completed, fun calls stage ms wires hstage hdelivers hreceived => ?_,
    fun calls before m after hdeeds => hstarts.keepsOrder hdeeds⟩
  obtain rfl := Except.ok.inj (hstarts.stage.symm.trans hstage)
  rw [hstarts.config, hstarts.random] at hdelivers
  exact hstarts.delivered hdelivers hreceived

/-- The server delivers a handshake in one piece, and it is over. -/
theorem handshake_ordered_closed : ∃ c stage ms wires before m after suite asks secrets,
    Connection.start .acquainted 0 (.seeded [] 0 none) = .ok c ∧ c.stage = .ok stage ∧
    Config.acquainted.Delivers stage c.session.random {} ms wires ∧
    c.received [.readTls { deliveries := [.data (wires.flatMap Record.encode)] }] = wires.flatMap Record.encode ∧
    (c.run [.readTls { deliveries := [.data (wires.flatMap Record.encode)] }, .process]).progress = .done ∧
    c.Completed (c.run [.readTls { deliveries := [.data (wires.flatMap Record.encode)] },
      .process]).session.deeds before m after suite asks secrets ∧ c.Ordered := by
  obtain ⟨c, o, hello, ms, wires, hc, h, hconfig, hdelivers, hlength⟩ := start_delivers
  have hordered := handshake_ordered hc
  obtain ⟨hreceived, hstage⟩ := h.readTls_piece hlength
  rw [← h.random] at hdelivers
  have hdone : (c.run [.readTls { deliveries := [.data (wires.flatMap Record.encode)] },
      .process]).progress = .done := by
    have hsame : c.config = .acquainted := h.config.trans hconfig
    refine (hordered.delivered _ _ ms wires h.stage (hsame.symm ▸ hdelivers) hreceived).resolve_right ?_
    rintro ⟨e, he⟩
    cases hstage.symm.trans he
  obtain ⟨before, m, after, suite, asks, secrets, hcompleted⟩ := hordered.completed _ hdone
  exact ⟨c, o.stage, ms, wires, before, m, after, suite, asks, secrets, hc, h.stage, hdelivers, hreceived, hdone,
    hcompleted, hordered⟩

end Connection

end TlsClient
