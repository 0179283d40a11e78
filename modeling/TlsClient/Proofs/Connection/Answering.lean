import TlsClient.Proofs.Connection.Completing
import TlsClient.Proofs.Connection.Grounds
import TlsClient.Proofs.Stage.Presenting

/-!
# The client's flight

Once the server is done the client answers in one flight, and all of it is on its way before anything else
happens (`Connection.Answers`).  If it cannot be completed it breaks off before the key change, and the
connection is over (`Connection.BreaksOff`).  It is one or the other whenever a connection handles the
end of the server's flight (`flight_concluded`).
-/

namespace TlsClient

open Deeds (handled wire)
open HandshakeMessage (logs)
open Session (Talks)

/-! ## What is no part of the flight -/

/-- Whether an event puts nothing on its way but alerts and data. -/
def Event.IsAside : Event → Prop
  | .sent m => m.body.typ = .alert
  | .queued plain _ => plain.typ = .alert ∨ plain.typ = .applicationData
  | _ => True

theorem Event.IsTalk.isAside {b : Bool} {e : Event} (h : e.IsTalk b) : e.IsAside := by
  cases e with
  | sent m => exact h
  | queued plain w => exact h.imp_right And.left
  | _ => trivial

theorem Session.Talks.asides {s s' : Session} (h : Talks s s') :
    ∃ es, s'.deeds = s.deeds ++ es ∧ handled es = [] ∧ ∀ e ∈ es, e.IsAside := by
  obtain ⟨es, hes, hall⟩ := h.deeds
  exact ⟨es, hes, Deeds.handled_talk hall, fun e he => (hall e he).isAside⟩

/-! ## Flights that were sent, and those that were not -/

namespace Connection

/-- Where a connection that was started has to answer, after some deeds: what it has gathered on the way
there, and the request for a certificate if one came. -/
structure Due (c : Connection) (es : List Event) (flight : Flight) (key : Option PublicKey)
    (request : Option CertificateRequest) (src : RandomSource) : Prop where
  led : ∃ stage₀ stage, c.stage = .ok stage₀ ∧
    TlsClient.Course c.config stage₀ c.session.random (handled es) stage src ∧
    stage.Answers flight key request
  asked : (handled es).filterMap Message.request? = request.toList

/-- The flight that a connection sent when a message had been handled: the deeds after it begin with the
messages of the reply, in their order, and go on without any other of a handshake. -/
structure Answers (c : Connection) (before : List Event) (m : Message) (r : Reply)
    (after : List Event) : Prop where
  /-- The client contributes what the key exchange gives, and presents itself if it was asked to. -/
  agreed : ∃ flight key request src src', c.Due before flight key request src ∧
    (flight.exchange.agree key).run src = (.ok r.agreement, src') ∧
    r.secrets = .ofPremaster r.agreement.premaster flight.randoms flight.suite ∧
    c.config.Presents request (wire (before ++ [.handled m] ++ logs r.opening)) r.certificate r.signature
  /-- The Finished proves all that was on the wire before it. -/
  finished : Message.ofHandshake r.finished =
    r.secrets.clientFinished (before ++ [.handled m] ++ r.unprotected)
  /-- First the chain, the contribution and the signature, as far as there are any, then the key change and
  the Finished, and then only what is aside. -/
  sent : ∃ sealed rest, after = r.unprotected ++
    [.sent (.ofHandshake r.finished), .queued r.finishedRecord sealed] ++ rest ∧
    ∀ e ∈ rest, e.IsAside

/-- What a connection did that could not complete its flight when a message had been handled. -/
structure BreaksOff (c : Connection) (before : List Event) (m : Message) (after : List Event) :
    Prop where
  /-- It has come to the key exchange at most. -/
  begun : ∃ ms rest, after = logs ms ++ rest ∧ (∀ e ∈ rest, e.IsAside) ∧
    ∀ h ∈ ms, h.typ = .certificate ∨ h.typ = .clientKeyExchange
  /-- Neither the key change nor a Finished was sent. -/
  withheld : ∀ x, .sent x ∈ after →
    x.body.typ ≠ .changeCipherSpec ∧ x.handshakeType? ≠ some .finished
  /-- No record of the key change was queued. -/
  unchanged : ∀ plain sealed, .queued plain sealed ∈ after → plain.typ ≠ .changeCipherSpec
  /-- If it was time to answer, something kept it from going on. -/
  reason : ∀ flight key request src, c.Due before flight key request src →
    c.config.Stuck (before ++ [.handled m]) flight key request src

/-- What came of the end of the server's flight: the client answered, and waits for the key change or has
come further, or it broke off and the connection is over. -/
inductive Concludes (c : Connection) (before : List Event) (m : Message) (after : List Event) :
    Except TlsError Stage → Prop
  | answered {result : Except TlsError Stage} (r : Reply) (h : c.Answers before m r after)
    (hlate : ∀ stage, result = .ok stage → stage.Late) : Concludes c before m after result
  | brokeOff {e : TlsError} (h : c.BreaksOff before m after) : Concludes c before m after (.error e)

/-- Every end of a server's flight that has been handled was concluded. -/
def Concluding (c c' : Connection) : Prop :=
  ∀ before m after encoded, c'.session.deeds = before ++ .handled m :: after →
    m.body = .handshake .serverHelloDone encoded → c.Concludes before m after c'.stage

variable {o : Origin} {hello : ClientHello} {c₀ c c' : Connection} {before after es : List Event}
  {m : Message} {stage stage' : Stage} {flight : Flight} {key : Option PublicKey}
  {request : Option CertificateRequest} {src : RandomSource} {r : Reply}

/-- The messages that were handled lead to one stage only. -/
theorem Due.stage_eq (h₀ : c₀.Starts o hello) (h : c.Sound o) (hok : c.stage = .ok stage)
    (hdue : c₀.Due c.session.deeds flight key request src) :
    stage.Answers flight key request ∧ src = c.session.random := by
  obtain ⟨stage₀, stage₁, hstart, hcourse, hanswers⟩ := hdue.led
  rw [h₀.stage] at hstart
  cases hstart
  rw [h₀.config, h₀.random] at hcourse
  obtain ⟨rfl, rfl⟩ := (h.course.onCourse stage hok).unique hcourse
  exact ⟨hanswers, rfl⟩

/-- A stage at which the client answers is where it has to. -/
theorem Starts.due (h₀ : c₀.Starts o hello) (h : c.Sound o) (hok : c.stage = .ok stage)
    (hanswers : stage.Answers flight key request) :
    c₀.Due c.session.deeds flight key request c.session.random := by
  have hcourse := h.course.onCourse stage hok
  have hfirst : o.stage.Remembers [] := by
    rw [h₀.waitsFor]
    exact .inr rfl
  refine ⟨⟨o.stage, stage, h₀.stage, ?_, hanswers⟩, (hcourse.remembers hfirst).asked hanswers⟩
  rw [h₀.config, h₀.random]
  exact hcourse

/-- What is left to sign at the end of the server's flight is all that was on the wire. -/
theorem Phase.holds_handled (h : c.Phase o) (hok : c.stage = .ok stage)
    (hanswers : stage.Answers flight key request) (m : Message) :
    (flight.transcript.add m).Holds (wire (c.session.deeds ++ [.handled m])) := by
  obtain ⟨hholds, -, -⟩ := h.of_gathers hok hanswers.gathers
  rw [Deeds.wire_append, Deeds.wire_handled]
  exact hholds.add m

/-- A reply is sent as one flight. -/
theorem Sound.answered (h₀ : c₀.Starts o hello) (hadmitted : o.config.Admitted) (h : c.Sound o)
    (hok : c.stage = .ok stage) (hanswers : stage.Answers flight key request) {encoded : Bytes}
    (hm : m.body = .handshake .serverHelloDone encoded)
    (hreply : o.config.Replies flight key request m c.session.random r src)
    (hsent : r.Answered (c.session.happened (.handled m)) c'.session) :
    ∃ es, c'.session.deeds = c.session.deeds ++ .handled m :: es ∧ handled es = [] ∧
      c₀.Answers c.session.deeds m r es := by
  obtain ⟨sealed, q, -, -, hdeeds⟩ := answered_deeds hsent
  have hcourse := h.course.onCourse stage hok
  have hfinishes := h.phase.finishes_reply hcourse hok hanswers hm hreply
  refine ⟨r.unprotected ++ [.sent (.ofHandshake r.finished), .queued r.finishedRecord sealed], ?_, ?_, ?_⟩
  · rw [hdeeds, List.append_assoc, List.append_assoc]
    rfl
  · rw [Deeds.handled_append, Reply.unprotected, Deeds.handled_append, HandshakeMessage.handled_logs,
      Message.handled_log]
    rfl
  · constructor
    case agreed =>
      have hprove := hreply.signature
      rw [(h.phase.holds_handled hok hanswers m).verify_addAll] at hprove
      refine ⟨flight, key, request, _, src, h₀.due h hok hanswers, hreply.agreement, hreply.secrets, ?_⟩
      rw [h₀.config, hreply.certificate]
      exact hadmitted.presents hprove
    case finished => exact Finishes.message hfinishes
    case sent => exact ⟨sealed, [], (List.append_nil _).symm, List.forall_mem_nil _⟩

/-- Certificates and contributions alone complete nothing. -/
theorem BreaksOff.of_begun {ms : List HandshakeMessage} {rest : List Event}
    (hms : ∀ h ∈ ms, h.typ = .certificate ∨ h.typ = .clientKeyExchange) (hrest : ∀ e ∈ rest, e.IsAside)
    (hreason : ∀ flight key request src, c.Due before flight key request src →
      c.config.Stuck (before ++ [.handled m]) flight key request src) :
    c.BreaksOff before m (logs ms ++ rest) := by
  constructor
  case begun => exact ⟨ms, rest, rfl, hrest, hms⟩
  case withheld =>
    intro x hx
    rcases List.mem_append.mp hx with hx | hx
    · rcases HandshakeMessage.mem_logs hx with ⟨h, hh, hsent | ⟨r, -, hqueued⟩⟩
      · cases hsent
        refine ⟨fun htyp => (nomatch htyp), fun htyp => ?_⟩
        have hfinished : h.typ = .finished := Option.some.inj htyp
        rcases hms h hh with htyp | htyp <;> rw [hfinished] at htyp <;> cases htyp
      · cases hqueued
    · have halert : x.body.typ = .alert := hrest _ hx
      refine ⟨fun htyp => ?_, fun htyp => ?_⟩
      · rw [halert] at htyp
        cases htyp
      · unfold Message.handshakeType? at htyp
        split at htyp
        · next hbody =>
          rw [hbody] at halert
          cases halert
        · cases htyp
  case unchanged =>
    intro plain sealed hqueued htyp
    rcases List.mem_append.mp hqueued with hqueued | hqueued
    · rcases HandshakeMessage.mem_logs hqueued with ⟨h, -, hsent | ⟨r, hr, hrecord⟩⟩
      · cases hsent
      · cases hrecord
        cases htyp.symm.trans hr
    · rcases hrest _ hqueued with h | h <;> rw [htyp] at h <;> cases h
  case reason => exact hreason

theorem IsAside.append {xs ys : List Event} (hxs : ∀ e ∈ xs, e.IsAside) (hys : ∀ e ∈ ys, e.IsAside) :
    ∀ e ∈ xs ++ ys, e.IsAside :=
  fun e he => (List.mem_append.mp he).elim (hxs e) (hys e)

theorem Answers.append (h : c.Answers before m r after) (hes : ∀ e ∈ es, e.IsAside) :
    c.Answers before m r (after ++ es) := by
  obtain ⟨sealed, rest, rfl, hrest⟩ := h.sent
  exact ⟨h.agreed, h.finished, sealed, rest ++ es, List.append_assoc .., IsAside.append hrest hes⟩

theorem BreaksOff.append (h : c.BreaksOff before m after) (hes : ∀ e ∈ es, e.IsAside) :
    c.BreaksOff before m (after ++ es) := by
  obtain ⟨ms, rest, rfl, hrest, hms⟩ := h.begun
  rw [List.append_assoc]
  exact .of_begun hms (IsAside.append hrest hes) h.reason

/-! ## Every move -/

/-- A move by which nothing of the handshake is handled or sent leaves what was concluded. -/
theorem Concluding.aside (hc : c₀.Concluding c) (hdeeds : c'.session.deeds = c.session.deeds ++ es)
    (hhandled : handled es = []) (hes : ∀ e ∈ es, e.IsAside)
    (hstage : c'.stage = c.stage ∨ ∃ e, c'.stage = .error e) : c₀.Concluding c' := by
  intro before m after encoded hsplit hm
  rw [hdeeds] at hsplit
  rcases Deeds.append_cases hsplit with ⟨mid, hbefore, rfl⟩ | ⟨mid, -, rfl⟩
  · have hconcludes := hc before m mid encoded hbefore hm
    generalize c.stage = result at hconcludes hstage
    cases hconcludes with
    | answered r h hlate =>
      refine .answered r (h.append hes) fun stage hok => ?_
      rcases hstage with hstage | ⟨e, hstage⟩
      · exact hlate stage (hstage.symm.trans hok)
      · rw [hstage] at hok
        cases hok
    | brokeOff h =>
      rcases hstage with hstage | ⟨e, hstage⟩ <;> rw [hstage] <;> exact .brokeOff (h.append hes)
  · rw [Deeds.handled_append] at hhandled
    cases (List.append_eq_nil_iff.mp hhandled).2

/-- So does handling a message after the reply, and handling the end of the server's flight concludes it. -/
theorem Concluding.handles (hc : c₀.Concluding c) (hok : c.stage = .ok stage)
    (hdeeds : c'.session.deeds = c.session.deeds ++ .handled m :: es) (hhandled : handled es = [])
    (hlate : stage.Late → (∀ e ∈ es, e.IsAside) ∧ ∀ stage', c'.stage = .ok stage' → stage'.Late)
    (hdone : ∀ encoded, m.body = .handshake .serverHelloDone encoded →
      c₀.Concludes c.session.deeds m es c'.stage) : c₀.Concluding c' := by
  intro before m' after encoded hsplit hm
  rw [hdeeds] at hsplit
  rcases Deeds.append_cases hsplit with ⟨mid, hbefore, rfl⟩ | ⟨mid, rfl, hnew⟩
  · have hconcludes := hc before m' mid encoded hbefore hm
    rw [hok] at hconcludes
    cases hconcludes with
    | answered r h hstage =>
      obtain ⟨hes, hnext⟩ := hlate (hstage stage rfl)
      exact .answered r (h.append (List.forall_mem_cons.mpr ⟨trivial, hes⟩)) hnext
  · cases mid with
    | nil =>
      obtain ⟨hhead, rfl⟩ := List.cons.inj hnew
      cases hhead
      rw [List.append_nil]
      exact hdone encoded hm
    | cons e mid =>
      have hmid : es = mid ++ .handled m' :: after := (List.cons.inj hnew).2
      rw [hmid, Deeds.handled_append] at hhandled
      cases (List.append_eq_nil_iff.mp hhandled).2

/-- What follows from a message that is taken in, if it is no reply, is aside. -/
theorem performed_asides {act : Stage.Act} {s s' : Session} (hact : act.Performed (s.happened (.handled m)) s')
    (hreply : ∀ r, act ≠ .reply r) :
    ∃ es, s'.deeds = s.deeds ++ .handled m :: es ∧ handled es = [] ∧ ∀ e ∈ es, e.IsAside := by
  have hfollows (s₁ : Session) (hs₁ : s₁.deeds = (s.happened (.handled m)).deeds) (htalk : Talks s₁ s') :
      ∃ es, s'.deeds = s.deeds ++ .handled m :: es ∧ handled es = [] ∧ ∀ e ∈ es, e.IsAside := by
    obtain ⟨es, hes, hhandled, hasides⟩ := htalk.asides
    refine ⟨es, ?_, hhandled, hasides⟩
    rw [hes, hs₁, (Session.takes_handled s m).deeds, List.append_assoc]
    rfl
  cases act with
  | nothing => exact hfollows _ rfl hact
  | choose suite => exact hfollows { s.happened (.handled m) with suite := some suite } rfl hact
  | startReceiving => exact hfollows (s.happened (.handled m)).startReceiving rfl hact
  | startTraffic => exact hfollows { s.happened (.handled m) with traffic := true } rfl hact
  | reply r => exact absurd rfl (hreply r)

/-- A message that is taken in concludes the server's flight if it is its end. -/
theorem Concluding.takes (h₀ : c₀.Starts o hello) (hadmitted : o.config.Admitted) (h : c.Sound o)
    (hc : c₀.Concluding c) (hok : c.stage = .ok stage) (hstage : c'.stage = .ok stage') {act : Stage.Act}
    (ht : stage.Takes o.config c.session.random m act stage' src)
    (hact : act.Performed (c.session.happened (.handled m)) c'.session) : c₀.Concluding c' := by
  have hnext (hlate : stage.Late) (stage'' : Stage) (hs : c'.stage = .ok stage'') : stage''.Late := by
    rw [hstage] at hs
    cases hs
    exact hlate.takes ht
  have hother (hreply : ∀ r, act ≠ .reply r)
      (hm : ∀ encoded, m.body ≠ .handshake .serverHelloDone encoded) : c₀.Concluding c' := by
    obtain ⟨es, hdeeds, hhandled, hes⟩ := performed_asides hact hreply
    exact hc.handles hok hdeeds hhandled (fun hlate => ⟨hes, hnext hlate⟩)
      fun encoded hdone => absurd hdone (hm encoded)
  cases ht with
  | @reply _ flight key request encoded r _ hanswers hm hreply =>
    obtain ⟨es, hdeeds, hhandled, hsent⟩ := h.answered h₀ hadmitted hok hanswers hm hreply hact
    refine hc.handles hok hdeeds hhandled (fun hlate => absurd hanswers hlate.not_answers) fun _ _ => ?_
    refine .answered r hsent fun stage'' hs => ?_
    rw [hstage] at hs
    cases hs
    exact .keyChange _ _
  | hello hm | certificate hm | params hm | request hm | keyChange hm | finished hm | data hm =>
    refine hother (fun r hr => nomatch hr) fun encoded hdone => ?_
    cases hm.symm.trans hdone

/-- A message that is refused breaks the client's flight off if it is the end of the server's. -/
theorem Concluding.refuses (h₀ : c₀.Starts o hello) (h : c.Sound o) (hc : c₀.Concluding c)
    (hok : c.stage = .ok stage) {e : TlsError} (hstage : c'.stage = .error e) {s : Session}
    (hno : ∀ act stage' src', ¬ stage.Takes o.config c.session.random m act stage' src')
    (hfails : stage.Fails o.config m (c.session.happened (.handled m)) s) (htalk : Talks s c'.session) :
    c₀.Concluding c' := by
  obtain ⟨fs, hfs, hfshandled, hfsasides⟩ := htalk.asides
  have hmade := (Session.takes_handled c.session m).deeds
  have hreason (encoded : Bytes) (hm : m.body = .handshake .serverHelloDone encoded) :
      ∀ flight key request src, c₀.Due c.session.deeds flight key request src →
        c₀.config.Stuck (c.session.deeds ++ [.handled m]) flight key request src := by
    intro flight key request src hdue
    obtain ⟨hanswers, rfl⟩ := hdue.stage_eq h₀ h hok
    rw [h₀.config]
    exact Config.stuck_of_not_replies (h.phase.holds_handled hok hanswers m)
      fun r src' hreply => hno _ _ _ (.reply hanswers hm hreply)
  -- what was sent of the flight, and what went on aside after it
  have hbroke (ms : List HandshakeMessage) (es : List Event)
      (hdeeds : c'.session.deeds = c.session.deeds ++ .handled m :: (logs ms ++ es))
      (hhandled : handled es = []) (hes : ∀ e ∈ es, e.IsAside)
      (hms : ∀ h ∈ ms, h.typ = .certificate ∨ h.typ = .clientKeyExchange)
      (hlate : stage.Late → ms = []) : c₀.Concluding c' := by
    refine hc.handles hok hdeeds ?_ (fun hl => ⟨?_, ?_⟩) fun encoded hm => ?_
    · rw [Deeds.handled_append, HandshakeMessage.handled_logs, hhandled]
      rfl
    · rw [hlate hl]
      exact hes
    · intro stage' hs
      rw [hstage] at hs
      cases hs
    · rw [hstage]
      exact .brokeOff (.of_begun hms hes (hreason encoded hm))
  rcases hfails with ⟨suite, hrefused⟩ |
    ⟨flight, key, request, encoded, ms, src, hanswers, -, hbreaks, hsaid⟩
  · obtain ⟨es, hes, hhandled, hasides⟩ := hrefused.asides
    refine hbroke [] (es ++ fs) ?_ ?_ (IsAside.append hasides hfsasides) (List.forall_mem_nil _)
      fun _ => rfl
    · have hsame : ({ c.session.happened (.handled m) with suite } : Session).deeds =
          (c.session.happened (.handled m)).deeds := rfl
      rw [hfs, hes, hsame, hmade, List.append_assoc, List.append_assoc]
      rfl
    · rw [Deeds.handled_append, hhandled, hfshandled]
      rfl
  · refine hbroke ms fs ?_ hfshandled hfsasides ?_ fun hlate => absurd hanswers hlate.not_answers
    · have hsame : ({ c.session.happened (.handled m) with random := src } : Session).deeds =
          (c.session.happened (.handled m)).deeds := rfl
      rw [hfs, hsaid.1, hsame, hmade, List.append_assoc, List.append_assoc]
      rfl
    · have hpresented (request : Option (List Certificate)) :
          ∀ h ∈ Reply.presented request, h.typ = .certificate := by
        cases request with
        | none => exact List.forall_mem_nil _
        | some chain => exact List.forall_mem_singleton.mpr rfl
      intro h hh
      cases hbreaks with
      | disagree => exact .inl (hpresented _ h hh)
      | unsigned agreement src' hagree =>
        rcases List.mem_append.mp hh with hh | hh
        · exact .inl (hpresented _ h hh)
        · rw [List.mem_singleton.mp hh]
          exact .inr rfl

/-- Every move concludes the server's flight if it handles its end, and leaves what was concluded. -/
theorem Concluding.step (h₀ : c₀.Starts o hello) (hadmitted : o.config.Admitted) (h : c.Sound o)
    (hmove : Moves c c') (hc : c₀.Concluding c) : c₀.Concluding c' := by
  cases hmove with
  | talks hconfig hstage hjoin htalk =>
    obtain ⟨es, hes, hhandled, hasides⟩ := htalk.asides
    exact hc.aside hes hhandled hasides (.inl hstage)
  | hears hok hconfig hstage hjoin hr hopen htalk =>
    obtain ⟨es, hes, hhandled, hasides⟩ := htalk.asides
    rw [hopen.takes.deeds, List.append_assoc] at hes
    exact hc.aside hes hhandled (List.forall_mem_cons.mpr ⟨trivial, hasides⟩) (.inl hstage)
  | opens hok hready hconfig hstage hopen hjoin =>
    exact hc.aside hopen.takes.deeds rfl (List.forall_mem_singleton.mpr trivial) (.inl hstage)
  | @takes stage stage' m rest hok hready hm hconfig hstage hjoin hrun =>
    obtain ⟨act, ht, hact⟩ := h.taken hok hrun
    exact hc.takes h₀ hadmitted h hok hstage ht hact
  | declines hok hready hm hconfig hstage hjoin htalk =>
    obtain ⟨es, hes, hhandled, hasides⟩ := htalk.asides
    exact hc.aside hes hhandled hasides (.inl hstage)
  | @refuses stage m rest e e' s hok hready hconfig hstage hrun htalk =>
    obtain ⟨hno, hfails⟩ := h.refused hok hrun
    exact hc.refuses h₀ h hok hstage hno hfails htalk
  | fails hok hconfig hstage hhear htalk =>
    obtain ⟨es, hes, hhandled, hasides⟩ := htalk.asides
    cases hhear with
    | nothing => exact hc.aside hes hhandled hasides (.inr ⟨_, hstage⟩)
    | unopened => exact hc.aside hes hhandled hasides (.inr ⟨_, hstage⟩)
    | opened r s' hopen =>
      rw [hopen.takes.deeds, List.append_assoc] at hes
      exact hc.aside hes hhandled (List.forall_mem_cons.mpr ⟨trivial, hasides⟩) (.inr ⟨_, hstage⟩)

variable {config : Config} {time : Int} {random : RandomSource}

/-- Whenever a connection has handled the end of the server's flight, it sent its own flight as one, or broke
it off before the key change and is over. -/
theorem flight_concluded {b : ConfigBuilder} (hb : b.build = .ok config)
    (h : Connection.start config time random = .ok c) (calls : List Call) : c.Concluding (c.run calls) := by
  obtain ⟨o, hello, hstarts, rfl⟩ := start_starts h
  have hadmitted := ConfigBuilder.build_admits hb
  have hfirst : c.Concluding c := by
    intro before m after encoded hdeeds hm
    have hmem : m ∈ handled c.session.deeds := by
      rw [hdeeds, Deeds.handled_append]
      exact List.mem_append_right _ List.mem_cons_self
    rw [hstarts.deeds, Message.handled_log] at hmem
    cases hmem
  exact (hstarts.run hfirst (fun _ _ hs hmove hc => hc.step hstarts hadmitted hs hmove) calls).2

theorem flight_concluded_closed : ∃ c before m r after, ConfigBuilder.acquainted.build = .ok .acquainted ∧
    Connection.start .acquainted 0 (.seeded [] 0 none) = .ok c ∧ c.Concluding (c.run Call.acquaint) ∧
    (c.run Call.acquaint).session.deeds = before ++ .handled m :: after ∧ c.Answers before m r after := by
  have hb : ConfigBuilder.acquainted.build = .ok .acquainted := rfl
  obtain ⟨c, secrets, t, p, hc, hlistens, -⟩ := run_acquainted
  have hconcluding := flight_concluded hb hc Call.acquaint
  have hdone : .handled ⟨.tls1, .handshake .serverHelloDone [14, 0, 0, 0]⟩
      ∈ (c.run Call.acquaint).session.deeds := by
    apply of_start hc
    decide +kernel
  obtain ⟨before, after, hdeeds⟩ := List.append_of_mem hdone
  have hconcludes := hconcluding before _ after _ hdeeds rfl
  rw [hlistens.stage] at hconcludes
  cases hconcludes with
  | answered r hanswers hlate => exact ⟨c, before, _, r, after, hb, hc, hconcluding, hdeeds, hanswers⟩

end Connection

end TlsClient
