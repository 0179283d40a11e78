import TlsClient.Proofs.Connection.Phases
import TlsClient.Proofs.Connection.Runs

/-!
# Every run is sound

A connection that was started is `Sound`: it is in a phase, its handled messages are a course that
leads to its stage or were cut off by the first that does not fit, and only what can wait waits.  Each
move keeps it so (`Sound.step`), hence every run (`Starts.sound_run`).
-/

namespace TlsClient

open Deeds (handled wire opened taken)
open HandshakeMessage (logs)
open Relation (ReflTransGen)
open Session (Talks Says)

/-- A configuration that offers one suite and trusts nobody. -/
def Config.distrustful : Config where
  suites := [⟨⟨0x0035⟩, .rsa, .aes256⟩]
  verifier := .refusing .unknownIssuer
  srp := none
  auth := none
  logsSecrets := false

namespace Connection

/-- How the messages that were handled led to where the connection is. -/
structure Follows (o : Origin) (c : Connection) : Prop where
  onCourse : ∀ stage, c.stage = .ok stage →
    o.Course (handled c.session.deeds) stage c.session.random
  cutOff : ∀ e, c.stage = .error e → ∃ ms stage src, o.Course ms stage src ∧
    (handled c.session.deeds = ms ∨
      ∃ m, handled c.session.deeds = ms ++ [m] ∧
        ∀ act stage' src', ¬ stage.Takes o.config src m act stage' src')

/-- What holds of a connection at every moment of a run. -/
structure Sound (o : Origin) (c : Connection) : Prop where
  config : c.config = o.config
  phase : c.Phase o
  course : c.Follows o
  waits : ∀ stage, c.stage = .ok stage → c.handshakes.Waits

variable {o : Origin} {c c' : Connection}

/-! ## What fails -/

theorem clear_said {s s' : Session} {ms : List HandshakeMessage} (h : s.Clear)
    (hs : Says (logs ms) s s') : s'.Clear := by
  refine ⟨by rw [Session.Idle, hs.layer]; exact h.idle,
    (congrArg Session.Frame.traffic hs.frame).trans h.traffic, ?_⟩
  rw [hs.1, Deeds.records_append]
  intro x hx
  rcases List.mem_append.mp hx with hx | hx
  · exact h.records x hx
  · obtain ⟨heq, ht⟩ := HandshakeMessage.records_logs hx
    exact ⟨heq, by rw [ht]; decide, by rw [ht]; decide⟩

/-- A message that fails leaves the session as it has to be, with one message more handled. -/
theorem Phase.refuses (h : c.Phase o) {stage : Stage} {m : Message} {s : Session}
    (hstage : c.stage = .ok stage)
    (hfails : stage.Fails o.config m (c.session.happened (.handled m)) s) :
    s.Kept o ∧ handled s.deeds = handled c.session.deeds ++ [m] := by
  have htakes := Session.takes_handled c.session m
  have hhandled : handled (c.session.happened (.handled m)).deeds
      = handled c.session.deeds ++ [m] := by
    rw [htakes.deeds, Deeds.handled_append, Deeds.handled_handled]
  rcases hfails with ⟨suite, htalk⟩ | ⟨flight, key, request, encoded, ms, src, ha, -, -, hsaid⟩
  · have htakes' : Session.Takes [.handled m] c.session
        { c.session.happened (.handled m) with suite } := ⟨htakes.deeds, rfl, rfl, rfl⟩
    exact ⟨(h.kept.takes htakes').talks htalk, htalk.handled_eq.trans hhandled⟩
  · obtain ⟨-, hclear, -⟩ := h.of_gathers hstage ha.gathers
    have hclear' : ({ c.session.happened (.handled m) with random := src } : Session).Clear :=
      (htakes.clear hclear).of_eq rfl rfl rfl
    refine ⟨.inl (clear_said hclear' hsaid), ?_⟩
    rw [hsaid.1, Deeds.handled_append, HandshakeMessage.handled_logs, List.append_nil]
    exact hhandled

/-- The handshake counts as over only at the last stage. -/
theorem Phase.of_traffic (h : c.Phase o) {stage : Stage} (hstage : c.stage = .ok stage)
    (ht : c.session.traffic = true) :
    ∃ r, c.stage = .ok .traffic ∧ c.session.Replied o r ∧ r.Verified c.session.deeds := by
  cases h with
  | early hs hg hholds hclear => rw [hclear.traffic] at ht; cases ht
  | replied hs hreplied htraffic => rw [htraffic] at ht; cases ht
  | keyed hs hreplied htraffic => rw [htraffic] at ht; cases ht
  | complete hs hreplied htraffic hverified => exact ⟨_, hs, hreplied, hverified⟩
  | ended hs => rw [hstage] at hs; cases hs

/-- At the last stage the handshake counts as over. -/
theorem Phase.traffic (h : c.Phase o) (hstage : c.stage = .ok .traffic) : c.session.traffic = true := by
  cases h with
  | early hs hg =>
    rw [hstage] at hs
    cases hs
    cases hg
  | complete hs hreplied htraffic hverified => exact htraffic
  | replied hs | keyed hs | ended hs =>
    rw [hstage] at hs
    cases hs

/-- No act handles a message. -/
theorem performed_handled {act : Stage.Act} {s s' : Session} (h : act.Performed s s') :
    handled s'.deeds = handled s.deeds := by
  cases act with
  | reply r =>
    obtain ⟨w, q, -, -, hdeeds⟩ := h.sealing
    rw [hdeeds]
    simp only [Deeds.handled_append, HandshakeMessage.handled_logs, Message.handled_log,
      List.nil_append]
    exact List.append_nil _
  | nothing => exact Session.Talks.handled_eq h
  | choose suite => exact Session.Talks.handled_eq (s := { s with suite := some suite }) h
  | startReceiving => exact Session.Talks.handled_eq (s := s.startReceiving) h
  | startTraffic => exact Session.Talks.handled_eq (s := { s with traffic := true }) h

/-! ## Every move -/

theorem Follows.same (h : c.Follows o) (hstage : c'.stage = c.stage)
    (hd : handled c'.session.deeds = handled c.session.deeds)
    (hr : c'.session.random = c.session.random) : c'.Follows o := by
  constructor
  · intro stage hs
    rw [hd, hr]
    exact h.onCourse stage (hstage ▸ hs)
  · intro e hs
    rw [hd]
    exact h.cutOff e (hstage ▸ hs)

theorem opens_handled {s s' : Session} {r : Record} (h : s.Opens r s') :
    handled s'.deeds = handled s.deeds ∧ s'.random = s.random := by
  refine ⟨?_, ?_⟩
  · rw [h.takes.deeds, Deeds.handled_append, Deeds.handled_opened, List.append_nil]
  · obtain ⟨wire, d, -, rfl⟩ := h
    rfl

/-- A connection that ends stays sound if its session does. -/
theorem Sound.ends (h : c.Sound o) {stage : Stage} {e : TlsError} (hok : c.stage = .ok stage)
    (hconfig : c'.config = c.config) (hstage : c'.stage = .error e) (hkept : c'.session.Kept o)
    (hd : handled c'.session.deeds = handled c.session.deeds ∨
      ∃ m, handled c'.session.deeds = handled c.session.deeds ++ [m] ∧
        ∀ act stage' src', ¬ stage.Takes o.config c.session.random m act stage' src') :
    c'.Sound o := by
  refine ⟨hconfig.trans h.config, .ended hstage hkept, ⟨fun _ hs => ?_, fun _ _ => ?_⟩,
    fun _ hs => ?_⟩
  · rw [hstage] at hs
    cases hs
  · exact ⟨_, stage, _, h.course.onCourse stage hok, hd⟩
  · rw [hstage] at hs
    cases hs

/-- A message that the stage handles is taken in by the connection. -/
theorem Sound.taken (h : c.Sound o) {stage stage' : Stage} {m : Message} {s : Session}
    (hok : c.stage = .ok stage)
    (hrun : (stage.handle c.config m).run (c.session.happened (.handled m)) = (.ok stage', s)) :
    ∃ act, stage.Takes o.config c.session.random m act stage' s.random ∧
      act.Performed (c.session.happened (.handled m)) s := by
  rw [h.config] at hrun
  exact @Stage.handle_ok o.config stage stage' m (c.session.happened (.handled m)) s (h.phase.idle hok) hrun

/-- A message that the stage does not handle fails the connection. -/
theorem Sound.refused (h : c.Sound o) {stage : Stage} {m : Message} {s : Session} {e : TlsError}
    (hok : c.stage = .ok stage)
    (hrun : (stage.handle c.config m).run (c.session.happened (.handled m)) = (.error e, s)) :
    (∀ act stage' src, ¬ stage.Takes o.config c.session.random m act stage' src) ∧
      stage.Fails o.config m (c.session.happened (.handled m)) s := by
  rw [h.config] at hrun
  exact @Stage.handle_error o.config stage m (c.session.happened (.handled m)) s e (h.phase.idle hok) hrun

/-- Every move keeps a connection sound. -/
theorem Sound.step (h : c.Sound o) (hmove : Moves c c') : c'.Sound o := by
  cases hmove with
  | talks hconfig hstage hjoin htalk =>
    refine ⟨hconfig.trans h.config, h.phase.talks hstage (by rw [hjoin]) htalk,
      h.course.same hstage htalk.handled_eq htalk.random, ?_⟩
    rw [hstage, hjoin]
    exact h.waits
  | @hears stage r s hok hconfig hstage hjoin hr hopen htalk =>
    obtain ⟨hhandled, hrandom⟩ := opens_handled hopen
    have hopened : ({ c with session := s } : Connection).Phase o := by
      refine h.phase.opens rfl ?_ hopen
      rw [Record.handshakePayload, if_neg hr, List.append_nil]
    refine ⟨hconfig.trans h.config, hopened.talks hstage (by rw [hjoin]) htalk,
      h.course.same hstage (htalk.handled_eq.trans hhandled) (htalk.random.trans hrandom), ?_⟩
    rw [hstage, hjoin]
    exact h.waits
  | opens hok hready hconfig hstage hopen hjoin =>
    obtain ⟨hwaits, hpending⟩ := hjoin.spec hready
    obtain ⟨hhandled, hrandom⟩ := opens_handled hopen
    exact ⟨hconfig.trans h.config, h.phase.opens hstage hpending hopen,
      h.course.same hstage hhandled hrandom, fun _ _ => hwaits⟩
  | @takes stage stage' m rest hok hready hm hconfig hstage hjoin hrun =>
    obtain ⟨act, ht, hact⟩ := h.taken hok hrun
    have hcourse := h.course.onCourse stage hok
    have hphase := h.phase.takes hcourse hok hready (h.waits stage hok) hjoin hstage ht hact
    refine ⟨hconfig.trans h.config, hphase, ⟨fun stage'' hs => ?_, fun e hs => ?_⟩, ?_⟩
    · rw [hstage] at hs
      cases hs
      rw [performed_handled hact, (Session.takes_handled c.session m).deeds, Deeds.handled_append]
      exact hcourse.step ht
    · rw [hstage] at hs
      cases hs
    · intro _ _
      rw [hjoin]
      exact (h.waits stage hok).rest hready
  | @declines stage m rest hok hready hm hconfig hstage hjoin htalk =>
    obtain ⟨r, hs, hreplied, hverified⟩ := h.phase.of_traffic hok hm.1
    obtain ⟨es, hes, -⟩ := htalk.deeds
    refine ⟨hconfig.trans h.config, .complete (hstage.trans hs) (hreplied.talks htalk)
      (htalk.traffic.trans hm.1) (hes ▸ hverified.mono es),
      h.course.same hstage htalk.handled_eq htalk.random, fun _ _ => ?_⟩
    rw [hjoin]
    exact (h.waits stage hok).rest hready
  | @refuses stage m rest e e' s hok hready hconfig hstage hrun htalk =>
    obtain ⟨hno, hfails⟩ := h.refused hok hrun
    obtain ⟨hkept, hhandled⟩ := h.phase.refuses hok hfails
    exact h.ends hok hconfig hstage (hkept.talks htalk)
      (.inr ⟨m, htalk.handled_eq.trans hhandled, hno⟩)
  | fails hok hconfig hstage hhear htalk =>
    obtain ⟨es, htakes, hes⟩ := hhear.takes
    refine h.ends hok hconfig hstage ((h.phase.kept.takes htakes).talks htalk) (.inl ?_)
    rw [htalk.handled_eq, htakes.deeds, Deeds.handled_append, hes, List.append_nil]

theorem Sound.moves (h : c.Sound o) (hmoves : ReflTransGen Moves c c') : c'.Sound o := by
  induction hmoves with
  | refl => exact h
  | tail _ hmove ih => exact ih.step hmove

/-! ## The start -/

/-- A connection that has sent its hello and nothing else. -/
structure Starts (o : Origin) (hello : ClientHello) (c : Connection) : Prop where
  config : c.config = o.config
  stage : c.stage = .ok o.stage
  random : c.session.random = o.random
  waitsFor : o.stage = .serverHello hello.random
    (({} : Transcript).add (.ofHandshake (.clientHello hello)))
    (hello.extensions.map ClientExtension.typ)
  offer : hello = o.config.hello hello.random
  deeds : c.session.deeds = (Message.ofHandshake (.clientHello hello)).log
  layer : c.session.layer = {}
  traffic : c.session.traffic = false
  suite : c.session.suite = none
  closeReceived : c.session.closeReceived = false
  deframer : c.deframer = {}
  handshakes : c.handshakes = {}

/-- What the start of a handshake does with the random bytes that it draws. -/
theorem start_run {config : Config} {time : Nat} {random random' : RandomSource}
    {drawn : HelloRandom} (h : (Drawing.helloRandom time).run random = (.ok drawn, random')) :
    (Stage.start config time).run { random } =
      (.ok (.serverHello drawn
          (({} : Transcript).add (.ofHandshake (.clientHello (config.hello drawn))))
          (config.extensions.map ClientExtension.typ)),
        (({ ({ random } : Session).note (.progress .start) with random := random' } : Session).send
          (.ofHandshake (.clientHello (config.hello drawn)))).note (.progress .clientHelloSent)) := by
  have hdraw : (Step.draw (Drawing.helloRandom time)).run
      (({ random } : Session).note (.progress .start)) =
        (.ok drawn, { ({ random } : Session).note (.progress .start) with random := random' }) := by
    rw [Step.run_draw]
    show (((Drawing.helloRandom time).run random).1,
      { ({ random } : Session).note (.progress .start) with
        random := ((Drawing.helloRandom time).run random).2 }) = _
    rw [h]
  unfold Stage.start
  rw [Step.run_bind_progress, Step.run_bind_of_ok hdraw, Step.run_bind_send, Step.run_bind_progress]
  rfl

/-- A handshake starts if there are random bytes for the hello. -/
theorem start_ok (config : Config) (time : Int) {random : RandomSource}
    (h : random.holds 28 = true) : ∃ c, Connection.start config time random = .ok c := by
  have hdraw : (Drawing.helloRandom time.toNat).run random
      = (.ok (.ofBytes (Bytes.ofNat 4 time.toNat ++ random.peek 28)), random.skip 28) := by
    have hbytes : Drawing.bytes 28 random = (.ok (random.peek 28), random.skip 28) := if_pos h
    show (ExceptT.bindCont (m := StateM RandomSource) _ (Drawing.bytes 28 random).1)
      (Drawing.bytes 28 random).2 = _
    rw [hbytes]
    rfl
  unfold Connection.start
  rw [start_run hdraw]
  exact ⟨_, rfl⟩

/-- What holds of whatever a start gives holds of the connection that it gave. -/
theorem of_start {config : Config} {time : Int} {random : RandomSource} {c : Connection}
    (h : Connection.start config time random = .ok c) {P : Connection → Prop}
    (hall : ∀ k ∈ (Connection.start config time random).toOption, P k) : P c :=
  hall c (by rw [h]; rfl)

theorem start_distrustful : ∃ c, Connection.start .distrustful 0 (.seeded [] 0 none) = .ok c :=
  start_ok _ _ rfl

theorem start_starts {config : Config} {time : Int} {random : RandomSource} {c : Connection}
    (h : Connection.start config time random = .ok c) : ∃ o hello, c.Starts o hello ∧
      o.config = config := by
  unfold Connection.start at h
  rcases hdraw : (Drawing.helloRandom time.toNat).run random with ⟨e | drawn, random'⟩
  · have hrun : (Stage.start config time.toNat).run { random }
        = (.error e, { ({ random } : Session).note (.progress .start) with random := random' }) := by
      unfold Stage.start
      rw [Step.run_bind_progress]
      apply Step.run_bind_of_error
      rw [Step.run_draw]
      show (((Drawing.helloRandom time.toNat).run random).1,
        { ({ random } : Session).note (.progress .start) with
          random := ((Drawing.helloRandom time.toNat).run random).2 }) = _
      rw [hdraw]
    rw [hrun] at h
    cases h
  · rw [start_run hdraw] at h
    cases h
    set s₁ : Session := { ({ random } : Session).note (.progress .start) with random := random' }
    have hidle : s₁.Idle := ⟨rfl, rfl⟩
    have hsaid := (Session.send_idle hidle (.ofHandshake (.clientHello (config.hello drawn)))).trans
      (.note _ (.progress .clientHelloSent))
    refine ⟨⟨config, _, random'⟩, config.hello drawn, ⟨rfl, rfl, ?_, rfl, rfl, ?_, hsaid.layer, ?_,
      ?_, ?_, rfl, rfl⟩, rfl⟩
    · exact congrArg Session.Frame.random hsaid.frame
    · rw [hsaid.1, List.append_nil]
      rfl
    · exact congrArg Session.Frame.traffic hsaid.frame
    · exact congrArg Session.Frame.suite hsaid.frame
    · exact congrArg Session.closeReceived hsaid.2

/-- A connection that has started is sound. -/
theorem Starts.sound {o : Origin} {hello : ClientHello} {c : Connection} (h : c.Starts o hello) :
    c.Sound o := by
  have hhandled : handled c.session.deeds = [] := by rw [h.deeds, Message.handled_log]
  have hpending : c.handshakes.pending = [] := by rw [h.handshakes]; rfl
  have hempty : ({} : Transcript).Holds [] := ⟨rfl, rfl, rfl⟩
  have hclear : c.session.Clear := by
    refine ⟨by rw [Session.Idle, h.layer]; exact ⟨rfl, rfl⟩, h.traffic, ?_⟩
    rw [h.deeds, ← HandshakeMessage.logs_singleton]
    intro x hx
    obtain ⟨heq, ht⟩ := HandshakeMessage.records_logs hx
    exact ⟨heq, by rw [ht]; decide, by rw [ht]; decide⟩
  refine ⟨h.config, .early (h.stage.trans (congrArg _ h.waitsFor)) (.serverHello _ _ _) ?_ hclear ?_,
    ⟨fun stage hs => ?_, fun e hs => ?_⟩, fun _ _ => ?_⟩
  · rw [h.deeds, Message.wire_log]
    exact hempty.add _
  · refine ⟨by rw [h.layer]; rfl, ?_, ?_⟩
    · rw [h.deeds, hpending, Message.opened_log, Message.taken_log]
      rfl
    · rw [h.deeds, Message.opened_log]
  · rw [h.stage] at hs
    cases hs
    rw [hhandled, h.random]
    exact .start
  · rw [h.stage] at hs
    cases hs
  · rw [h.handshakes]
    exact .inl fun _ hm => by cases hm

/-- The stage that a connection is led to by the messages that were handled among some deeds. -/
def Reaches (c : Connection) (es : List Event) (stage : Stage) : Prop :=
  ∃ stage₀ src, c.stage = .ok stage₀ ∧
    TlsClient.Course c.config stage₀ c.session.random (handled es) stage src

theorem Starts.reaches {o : Origin} {hello : ClientHello} {c : Connection} (h : c.Starts o hello)
    {es : List Event} {stage : Stage} {src : RandomSource}
    (hcourse : o.Course (handled es) stage src) : c.Reaches es stage :=
  ⟨o.stage, src, h.stage, by rw [h.config, h.random]; exact hcourse⟩

theorem Starts.drained {o : Origin} {hello : ClientHello} {c : Connection} (h : c.Starts o hello) :
    c.Drained := fun _ _ => by rw [h.handshakes]

/-- What every move of a sound connection keeps holds after every run. -/
theorem Starts.run {o : Origin} {hello : ClientHello} {c : Connection} (h : c.Starts o hello)
    {P : Connection → Prop} (h₀ : P c)
    (hstep : ∀ c₁ c₂, c₁.Sound o → Moves c₁ c₂ → P c₁ → P c₂) (calls : List Call) :
    (c.run calls).Sound o ∧ P (c.run calls) := by
  have hmoves := (run_moves h.drained calls).1
  generalize c.run calls = c' at hmoves
  induction hmoves with
  | refl => exact ⟨h.sound, h₀⟩
  | tail _ hmove ih => exact ⟨ih.1.step hmove, hstep _ _ ih.1 hmove ih.2⟩

theorem Starts.sound_run {o : Origin} {hello : ClientHello} {c : Connection} (h : c.Starts o hello)
    (calls : List Call) : (c.run calls).Sound o :=
  (h.run (P := fun _ => True) trivial (fun _ _ _ _ _ => trivial) calls).1

end Connection

end TlsClient
