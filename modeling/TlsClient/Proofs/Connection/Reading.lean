import TlsClient.Proofs.Connection.Completing
import TlsClient.Proofs.Queues

/-!
# What the server writes is read

The data that the deeds of a connection convey is that of the data records which it took keys to open once
the server's Finished had been verified and as long as the server had not closed (`Conveys`).  It reaches the
user whole and in order: what was read and what waits to be read are this data, whatever else happens and
also when the connection has failed (`received_read`).  One record can be left out, the one that fails the
connection because it comes inside of a handshake message (`Balanced`).
-/

namespace TlsClient

open Relation (ReflTransGen)
open Session (Still Unopened)

namespace Connection

variable {c c' c₀ : Connection} {stage stage' : Stage} {o : Origin} {hello : ClientHello} {m : Message}
  {ms : List Message} {r wire : Record} {e : TlsError} {d : Deframer} {bs : Bytes} {es : List Event}

/-! ## What the deeds convey -/

/-- A record that was opened after some deeds counts as data: it is application data, it took keys to open,
the messages handled before had led to the end of the handshake, and no close notification was heard. -/
structure Counts (c₀ : Connection) (before : List Event) (keyed : Bool) (r : Record) : Prop where
  keyed : keyed = true
  data : r.typ = .applicationData
  done : c₀.Reaches before .traffic
  opened : ∀ a ∈ Deeds.alerts before, a.description ≠ .closeNotify

/-- The data that some deeds convey: the payloads of the records that count, in order. -/
inductive Conveys (c₀ : Connection) : List Event → Bytes → Prop
  | nothing : Conveys c₀ [] []
  | data {es : List Event} {bs : Bytes} {k : Bool} {r : Record} (h : Conveys c₀ es bs)
    (hr : c₀.Counts es k r) : Conveys c₀ (es ++ [.opened k r]) (bs ++ r.payload)
  | other {es : List Event} {bs : Bytes} {e : Event} (h : Conveys c₀ es bs)
    (he : ∀ k r, e = .opened k r → ¬ c₀.Counts es k r) : Conveys c₀ (es ++ [e]) bs

/-- What is no record that was opened conveys nothing. -/
theorem Conveys.append (h : c₀.Conveys es bs) {fs : List Event} (hfs : ∀ e ∈ fs, e.opened? = none) :
    c₀.Conveys (es ++ fs) bs := by
  induction fs using List.reverseRecOn with
  | nil => exact (List.append_nil es).symm ▸ h
  | append_singleton fs e ih =>
    have hfirst := ih fun x hx => hfs x (List.mem_append_left _ hx)
    have hlast := hfs e (by simp)
    rw [← List.append_assoc]
    refine hfirst.other fun k r he => ?_
    rw [he] at hlast
    cases hlast

theorem Conveys.nil_inv (h : c₀.Conveys [] bs) : bs = [] := by
  generalize hes : ([] : List Event) = fs at h
  cases h with
  | nothing => rfl
  | data | other => simp at hes

/-- What the last deed adds. -/
theorem Conveys.concat_inv {e : Event} (h : c₀.Conveys (es ++ [e]) bs) : ∃ bs₁, c₀.Conveys es bs₁ ∧
    ((∃ k r, e = .opened k r ∧ c₀.Counts es k r ∧ bs = bs₁ ++ r.payload) ∨
      (∀ k r, e = .opened k r → ¬ c₀.Counts es k r) ∧ bs = bs₁) := by
  generalize hes : es ++ [e] = fs at h
  cases h with
  | nothing => simp at hes
  | data h hr =>
    obtain ⟨rfl, rfl⟩ := List.append_singleton_inj.mp hes
    exact ⟨_, h, .inl ⟨_, _, rfl, hr, rfl⟩⟩
  | other h he =>
    obtain ⟨rfl, rfl⟩ := List.append_singleton_inj.mp hes
    exact ⟨_, h, .inr ⟨he, rfl⟩⟩

/-- Some deeds convey one string of bytes and no other. -/
theorem Conveys.unique {bs' : Bytes} (h : c₀.Conveys es bs) (h' : c₀.Conveys es bs') : bs' = bs := by
  induction es using List.reverseRecOn generalizing bs bs' with
  | nil => rw [h.nil_inv, h'.nil_inv]
  | append_singleton es e ih =>
    obtain ⟨bs₁, h₁, hlast⟩ := h.concat_inv
    obtain ⟨bs₂, h₂, hlast'⟩ := h'.concat_inv
    obtain rfl := ih h₁ h₂
    rcases hlast with ⟨k, r, rfl, hr, rfl⟩ | ⟨hno, rfl⟩
    · rcases hlast' with ⟨k', r', heq, -, rfl⟩ | ⟨hno, -⟩
      · cases heq
        rfl
      · exact absurd hr (hno k r rfl)
    · rcases hlast' with ⟨k, r, rfl, hr, -⟩ | ⟨-, rfl⟩
      · exact absurd hr (hno k r rfl)
      · rfl

/-! ## What the user is given -/

/-- What a call gives to the user. -/
def gives (c : Connection) : Call → Bytes
  | .read n =>
    match (c.read n).1 with
    | .ok bs => bs
    | .error _ => []
  | _ => []

/-- What the user has read in a run. -/
def given (c : Connection) (calls : List Call) : Bytes := yields gives c calls

theorem given_concat (c : Connection) (calls : List Call) (call : Call) :
    c.given (calls ++ [call]) = c.given calls ++ (c.run calls).gives call := by
  rw [given, yields_append, yields_singleton]
  rfl

/-- Nothing is lost by a read: what it does not give stays. -/
theorem gives_read (c : Connection) (n : Nat) :
    c.gives (.read n) ++ (c.read n).2.session.incoming.toBytes = c.session.incoming.toBytes := by
  have hgives : c.gives (.read n) = (c.session.incoming.read n).1 := by
    unfold gives Connection.read Session.read
    dsimp only
    split
    · next bs heq =>
      split at heq
      · cases heq
        rfl
      · split at heq <;> cases heq
    · next heq =>
      split at heq
      · cases heq
      · next hsome =>
        have hempty : (c.session.incoming.read n).1.isEmpty = true := by
          by_contra hne
          exact hsome (by simp [hne])
        exact (List.isEmpty_iff.mp hempty).symm
  rw [hgives]
  exact ByteQueue.read_append _ n

/-! ## Taking in a record -/

theorem Reaches.unique (h : c₀.Reaches es stage) (h' : c₀.Reaches es stage') : stage = stage' := by
  obtain ⟨stage₀, src, hstage, hcourse⟩ := h
  obtain ⟨stage₀', src', hstage', hcourse'⟩ := h'
  obtain rfl : stage₀ = stage₀' := Except.ok.inj (hstage.symm.trans hstage')
  exact (hcourse'.unique hcourse).1

theorem deliver_still (hm : stage = .traffic → m.body.typ ≠ .applicationData) :
    Still c.session (c.deliver stage m).2.session := by
  unfold deliver
  split
  · exact Session.still_sendWarning _ _
  · have hhandled : Still c.session (c.session.happened (.handled m)) :=
      ⟨rfl, [.handled m], (Session.takes_handled c.session m).deeds, by simp [Event.opened?]⟩
    exact hhandled.trans (Stage.handle_still c.config hm _)

theorem deliverAll_still (hms : ∀ m ∈ ms, m.body.typ ≠ .applicationData) :
    Still c.session (c.deliverAll stage ms).2.session := by
  induction ms generalizing c stage with
  | nil => exact .refl _
  | cons m ms ih =>
    obtain ⟨hm, hms⟩ := List.forall_mem_cons.mp hms
    have hfirst := @deliver_still c stage m fun _ => hm
    unfold deliverAll
    rcases hx : c.deliver stage m with ⟨e | stage', c'⟩
    all_goals rw [hx] at hfirst
    · exact hfirst
    · exact hfirst.trans (ih hms)

/-- Data that comes after the handshake and between its messages. -/
def TakesData (c : Connection) (stage : Stage) (r : Record) : Prop :=
  stage = .traffic ∧ r.typ = .applicationData ∧ c.handshakes.isEmpty = true

/-- Whatever else is in a record, nothing of it is kept for the user. -/
theorem takeOpened_still (hready : c.handshakes.ready = []) (hr : ¬ c.TakesData stage r) :
    Still c.session (c.takeOpened stage r).2.session := by
  unfold takeOpened
  split
  · exact Session.still_abort _ _
  · next hinside =>
    split
    · unfold takeHandshakes
      rcases hpush : c.handshakes.push r with ⟨e | n, j⟩
      · exact .refl _
      · obtain ⟨-, hjoined⟩ := HandshakeJoiner.push_bytes hready hpush
        refine @deliverAll_still { c with handshakes := { j with ready := [] } } stage j.ready ?_
        intro m hm ht
        rw [(hjoined m hm).typ] at ht
        cases ht
    · next htyp =>
      split
      · exact Session.still_receiveAlerts _ _
      · split
        · unfold takeMessage
          split
          · next m hm =>
            refine deliver_still fun ht hdata => hr ⟨ht, Message.typ_of_ofRecord hm ▸ hdata, ?_⟩
            simpa [htyp] using hinside
          · exact .refl _
        · exact .note _ _

theorem takeOpened_data (hr : c.TakesData stage r) :
    ∃ m, c.takeOpened stage r = (.ok .traffic,
      { c with session := (c.session.happened (.handled m)).receiveData r.payload }) := by
  obtain ⟨rfl, htyp, hempty⟩ := hr
  have hrecord : Message.ofRecord r = .ok ⟨r.version, .applicationData r.payload⟩ := by
    rw [Message.ofRecord, MessageBody.decode, if_pos htyp]
    rfl
  refine ⟨⟨r.version, .applicationData r.payload⟩, ?_⟩
  rw [takeOpened, if_neg (by simp [hempty]), if_neg (by rw [htyp]; decide),
    if_neg (by rw [htyp]; decide), if_pos (.inr htyp), takeMessage, hrecord]
  dsimp only
  rw [deliver, if_neg (by rintro ⟨-, ⟨⟩⟩), Stage.handle_data c.config rfl]

theorem takeOpened_inside (hr : r.typ = .applicationData) (hinside : c.handshakes.isEmpty = false) :
    c.takeOpened stage r = (.error (.misbehaved .recordInsideMessage),
      { c with session := c.session.abort .unexpectedMessage }) := by
  rw [takeOpened, if_pos (by rw [hinside, hr]; rfl), hr]
  rfl

/-- What the server writes after the handshake is kept. -/
theorem Operating.receives {p : Protection} {k : UInt64} {n : Nat} (h : c.Operating p k n)
    (hk : ¬ Direction.hardLimit ≤ k) (hbs : bs.length ≤ Record.maxFragment) :
    ∃ (wire : Record) (q : Protection),
      (c.run [.readTls { deliveries := [.data wire.encode] }, .process]).Operating q (k + 1) n ∧
      (c.run [.readTls { deliveries := [.data wire.encode] }, .process]).session.incoming
        = c.session.incoming.push bs := by
  obtain ⟨wire, q, hiv, hrun⟩ := h.hears (r := Session.dataRecord bs) hk rfl hbs
  have htakes : (c.unsealed (Session.dataRecord bs) ⟨some q, k + 1, .active⟩).TakesData .traffic
      (Session.dataRecord bs) := ⟨rfl, rfl, by rw [unsealed, h.handshakes]; rfl⟩
  obtain ⟨m, htake⟩ := takeOpened_data htakes
  refine ⟨wire, q, ?_⟩
  rw [hrun _ _ htake]
  set s := (c.unsealed (Session.dataRecord bs) ⟨some q, k + 1, .active⟩).session.happened (.handled m)
  have hroom : (s.receiveData bs).Room n := h.room.of_eq rfl (c.sent_unsealed _ _ m) rfl
  exact ⟨⟨⟨rfl, h.opened, h.deframer, h.handshakes, rfl, hiv⟩, h.traffic, hroom⟩, rfl⟩

/-! ## Nothing is lost -/

/-- These bytes are what the deeds convey, unless the connection was failed by a record of data that came
inside of a handshake message, which is left out. -/
inductive Balanced (c₀ c : Connection) (bs : Bytes) : Prop
  | whole (h : c₀.Conveys c.session.deeds bs)
  | inside {before after : List Event} {r : Record}
    (hdeeds : c.session.deeds = before ++ .opened true r :: after) (hr : c₀.Counts before true r)
    (hafter : ∀ e ∈ after, e.opened? = none)
    (hstage : c.stage = .error (.misbehaved .recordInsideMessage))
    (hinside : c.handshakes.isEmpty = false) (h : c₀.Conveys before bs)

theorem Conveys.unopened {s s' : Session} (h : c₀.Conveys s.deeds bs) (hs : Unopened s s') :
    c₀.Conveys s'.deeds bs := by
  obtain ⟨es, hes, hall⟩ := hs
  rw [hes]
  exact h.append hall

/-- What opens no record and does not end another way leaves the balance. -/
theorem Balanced.unopened (h : c₀.Balanced c bs) (hs : Unopened c.session c'.session)
    (hstage : ∀ e, c.stage = .error e → c'.stage = .error e) (hjoin : c'.handshakes = c.handshakes) :
    c₀.Balanced c' bs := by
  cases h with
  | whole h => exact .whole (h.unopened hs)
  | inside hdeeds hr hafter hfailed hinside h =>
    obtain ⟨es, hes, hall⟩ := hs
    refine .inside (by rw [hes, hdeeds, List.append_assoc, List.cons_append]) hr (fun e he => ?_)
      (hstage _ hfailed) (hjoin ▸ hinside) h
    rcases List.mem_append.mp he with he | he
    · exact hafter e he
    · exact hall e he

/-- While a connection goes on, nothing has been left out. -/
theorem Balanced.conveys (h : c₀.Balanced c bs) (hok : c.stage = .ok stage) :
    c₀.Conveys c.session.deeds bs := by
  cases h with
  | whole h => exact h
  | inside hdeeds hr hafter hfailed hinside h =>
    rw [hok] at hfailed
    cases hfailed

/-- Before it has heard more than warnings a connection has heard no close notification. -/
theorem Heeds.unclosed (h : c.Heeds) : ∀ a ∈ Deeds.alerts c.session.deeds, a.description ≠ .closeNotify := by
  intro a ha
  have hharmless := List.find?_eq_none.mp h.verdict a ha
  have hboth : a.level = .warning ∧ a.description ≠ .closeNotify := by
    simpa [Alert.harmless] using hharmless
  exact hboth.2

/-- Data that the last stage takes in counts. -/
theorem Moment.counts (hstart : c₀.Starts o hello) (h : c₀.Moment c) (hok : c.stage = .ok .traffic)
    (hopen : c.session.closeReceived = false) (hr : r.typ = .applicationData) :
    c₀.Counts c.session.deeds c.session.layer.receiving.isActive r where
  keyed := (h.keyed hstart _ hok).active
  data := hr
  done := hstart.reaches ((h.sound hstart).course.onCourse _ hok)
  opened := (h.heeds hok hopen).unclosed

theorem upshot_still (x : Except TlsError Stage × Connection) : Still x.2.session (upshot x).session := by
  rcases x with ⟨e | stage, c⟩
  · exact Session.still_abort _ _
  · exact .refl _

variable {out : Bytes}

/-- What keeps still leaves the data as it is. -/
theorem balanced_of_still {x : Except TlsError Stage × Connection} {s : Session} (hx : Still s x.2.session)
    (h : c₀.Conveys s.deeds (out ++ s.incoming.toBytes)) :
    c₀.Balanced (upshot x) (out ++ (upshot x).session.incoming.toBytes) := by
  have hstill := hx.trans (upshot_still x)
  rw [hstill.incoming]
  exact .whole (h.unopened hstill.unopened)

/-- Data that is taken in is kept behind what waits. -/
theorem takesData_balanced (hr : c.TakesData stage r)
    (h : c₀.Conveys c.session.deeds (out ++ c.session.incoming.toBytes ++ r.payload)) :
    c₀.Balanced (upshot (c.takeOpened stage r))
      (out ++ (upshot (c.takeOpened stage r)).session.incoming.toBytes) := by
  obtain ⟨m, hdata⟩ := takeOpened_data hr
  rw [hdata]
  have hhandled : Unopened c.session ((c.session.happened (.handled m)).receiveData r.payload) :=
    ⟨[.handled m], (Session.takes_handled c.session m).deeds, by simp [Event.opened?]⟩
  refine .whole ?_
  show c₀.Conveys _ (out ++ (c.session.incoming.push r.payload).toBytes)
  rw [ByteQueue.toBytes_push, ← List.append_assoc]
  exact h.unopened hhandled

/-- Data that comes inside of a handshake message is left out. -/
theorem inside_balanced {before : List Event} (hdeeds : c.session.deeds = before ++ [.opened true r])
    (hr : c₀.Counts before true r) (hinside : c.handshakes.isEmpty = false)
    (h : c₀.Conveys before (out ++ c.session.incoming.toBytes)) :
    c₀.Balanced (upshot (c.takeOpened stage r))
      (out ++ (upshot (c.takeOpened stage r)).session.incoming.toBytes) := by
  rw [takeOpened_inside hr.data hinside]
  have hstill : Still c.session ((c.session.abort .unexpectedMessage).abort
      (TlsError.misbehaved .recordInsideMessage).alert) :=
    (Session.still_abort _ _).trans (Session.still_abort _ _)
  obtain ⟨es, hes, hunopened⟩ := hstill.unopened
  rw [hdeeds, List.append_assoc] at hes
  refine .inside hes hr hunopened rfl hinside ?_
  show c₀.Conveys _ (out ++ ((c.session.abort .unexpectedMessage).abort _).incoming.toBytes)
  rw [hstill.incoming]
  exact h

/-- A record that was cut out of what has arrived adds what it counts for. -/
theorem popped_balanced (hstart : c₀.Starts o hello) (h : c₀.Moment c) (hok : c.stage = .ok stage)
    (hopen : c.session.closeReceived = false) (d : Deframer) (wire : Record)
    (hbalanced : c₀.Conveys c.session.deeds (out ++ c.session.incoming.toBytes)) :
    ∀ x, ({ c with deframer := d } : Connection).takeRecord stage wire = x →
      c₀.Balanced (upshot x) (out ++ (upshot x).session.incoming.toBytes) := by
  rintro x rfl
  rcases hunprotect : c.session.layer.receiving.unprotect wire with ⟨e | r, q⟩
  · rw [takeRecord_refused (c := { c with deframer := d }) hunprotect]
    exact balanced_of_still (s := c.session) (.of_deeds rfl rfl) hbalanced
  rw [takeRecord_opened (c := { c with deframer := d }) hunprotect]
  set k := c.session.layer.receiving.isActive with hk
  set s := ({ c.session with layer := { c.session.layer with receiving := q } } : Session).happened
    (.opened k r) with hs
  have hopens : c.session.Opens r s := ⟨wire, q, hunprotect, rfl⟩
  have hdeeds : s.deeds = c.session.deeds ++ [.opened k r] := hopens.takes.deeds
  by_cases htakes : ({ c with deframer := d, session := s } : Connection).TakesData stage r
  · refine takesData_balanced htakes ?_
    obtain ⟨rfl, htyp, -⟩ := htakes
    show c₀.Conveys s.deeds _
    rw [hdeeds]
    exact .data hbalanced (h.counts hstart hok hopen htyp)
  by_cases hcounts : c₀.Counts c.session.deeds k r
  · -- data at the last stage that is not taken in comes inside of a handshake message
    have hreaches := hstart.reaches ((h.sound hstart).course.onCourse stage hok)
    obtain rfl := hreaches.unique hcounts.done
    have hinside : c.handshakes.isEmpty = false :=
      Bool.eq_false_iff.mpr fun hempty => htakes ⟨rfl, hcounts.data, hempty⟩
    rw [hcounts.keyed] at hdeeds
    exact inside_balanced hdeeds (hcounts.keyed ▸ hcounts) hinside hbalanced
  · refine balanced_of_still (takeOpened_still (h.drained stage hok) htakes) ?_
    show c₀.Conveys s.deeds _
    rw [hdeeds]
    refine .other hbalanced fun k' r' heq => ?_
    cases heq
    exact hcounts

/-- Between two records all that was conveyed has been kept. -/
theorem Passes.conveys (hstart : c₀.Starts o hello) (h : c₀.Moment c) (hpass : c.Passes c')
    (hconveys : c₀.Conveys c.session.deeds (out ++ c.session.incoming.toBytes)) :
    c₀.Conveys c'.session.deeds (out ++ c'.session.incoming.toBytes) := by
  cases hpass with
  | record hok hopen hpop htake =>
    have hbalanced := popped_balanced hstart h hok hopen _ _ hconveys _ htake
    exact hbalanced.conveys rfl

/-- However taking in what has arrived ends, the balance is kept. -/
theorem Rests.balanced (hstart : c₀.Starts o hello) (h : c₀.Moment c)
    {x : Except TlsError IoState × Connection} (hrests : c.Rests x)
    (hconveys : c₀.Conveys c.session.deeds (out ++ c.session.incoming.toBytes)) :
    c₀.Balanced x.2 (out ++ x.2.session.incoming.toBytes) := by
  cases hrests with
  | settled => exact .whole hconveys
  | @garbled stage e d =>
    have hsame : Still c.session ({ c with deframer := d } : Connection).session := .refl c.session
    exact balanced_of_still (x := (.error e, { c with deframer := d })) hsame hconveys
  | broken hok hopen hpop htake => exact popped_balanced hstart h hok hopen _ _ hconveys _ htake

theorem process_balanced (hstart : c₀.Starts o hello) (h : c₀.Moment c)
    (hbalanced : c₀.Balanced c (out ++ c.session.incoming.toBytes)) :
    c₀.Balanced c.process.2 (out ++ c.process.2.session.incoming.toBytes) := by
  cases hstage : c.stage with
  | error e =>
    have hsame : c.process.2 = c := by rw [Connection.process, hstage]
    rw [hsame]
    exact hbalanced
  | ok stage =>
    obtain ⟨c₁, hpasses, hrests⟩ := process_passes hstage
    have hall : c₀.Moment c₁ ∧ c₀.Conveys c₁.session.deeds (out ++ c₁.session.incoming.toBytes) := by
      clear hrests
      induction hpasses with
      | refl => exact ⟨h, hbalanced.conveys hstage⟩
      | tail _ hpass ih => exact ⟨ih.1.passes hstart hpass, hpass.conveys hstart ih.1 ih.2⟩
    exact hrests.balanced hstart hall.1 hall.2

/-! ## The other calls -/

/-- One connection comes from another by giving these bytes to the user and taking in no record. -/
structure Gives (c : Connection) (bs : Bytes) (c' : Connection) : Prop where
  unopened : Unopened c.session c'.session
  handshakes : c'.handshakes = c.handshakes
  kept : bs ++ c'.session.incoming.toBytes = c.session.incoming.toBytes

theorem Gives.of_still (h : Still c.session c'.session) (hjoin : c'.handshakes = c.handshakes) :
    c.Gives [] c' := ⟨h.unopened, hjoin, congrArg ByteQueue.toBytes h.incoming⟩

theorem Gives.refl (c : Connection) : c.Gives [] c := .of_still (.refl _) rfl

theorem Exchanges.gives (h : c.Exchanges c') : c.Gives [] c' := by
  cases h with
  | idle => exact .refl c
  | arrives bs => exact .of_still (.refl c.session) rfl
  | leaves n =>
    have hstill : Still c.session { c.session with outgoing := c.session.outgoing.drop n } :=
      Session.still_of_eq rfl rfl
    exact .of_still hstill rfl
  | fails hstage e =>
    have hstill : Still c.session (c.session.note (.transportFailed e)).loseTransport :=
      (Still.note _ _).trans (Session.still_of_eq rfl rfl)
    exact .of_still hstill rfl
  | loses hstage =>
    have hstill : Still c.session c.session.loseTransport := Session.still_of_eq rfl rfl
    exact .of_still hstill rfl

theorem call_gives (c : Connection) {call : Call} (h : call ≠ .process) :
    c.Gives (c.gives call) (c.call call) := by
  cases call with
  | process => exact absurd rfl h
  | readTls t => exact (exchanges_readTls c t).gives
  | writeTls t => exact (exchanges_writeTls c t).gives
  | write bs =>
    have hstill : Still c.session (c.write bs).2.session := Session.still_write c.session bs
    exact .of_still hstill rfl
  | read n =>
    have hdeeds : (c.read n).2.session.deeds = c.session.deeds := rfl
    exact ⟨.of_deeds hdeeds, rfl, gives_read c n⟩
  | close =>
    have hstill : Still c.session c.close.session := (Session.proceeds_sendClose c.session).still
    exact .of_still hstill rfl

theorem call_balanced (hstart : c₀.Starts o hello) (h : c₀.Moment c) (call : Call)
    (hbalanced : c₀.Balanced c (out ++ c.session.incoming.toBytes)) :
    c₀.Balanced (c.call call)
      (out ++ c.gives call ++ (c.call call).session.incoming.toBytes) := by
  by_cases hcall : call = .process
  · subst hcall
    show c₀.Balanced c.process.2 (out ++ [] ++ c.process.2.session.incoming.toBytes)
    rw [List.append_nil]
    exact process_balanced hstart h hbalanced
  · have hgives := call_gives c hcall
    rw [List.append_assoc, hgives.kept]
    exact hbalanced.unopened hgives.unopened (fun e he => call_ended he call) hgives.handshakes

/-! ## Runs -/

variable {config : Config} {time : Int} {random : RandomSource}

/-- Nothing has been conveyed when a connection has just started. -/
theorem start_balanced (h : Connection.start config time random = .ok c) :
    c.Balanced c c.session.incoming.toBytes := by
  have hstill := Stage.start_still config time.toNat ({ random } : Session)
  unfold Connection.start at h
  rcases hrun : (Stage.start config time.toNat).run { random } with ⟨e | stage, s⟩
  all_goals rw [hrun] at h hstill
  · cases h
  · cases h
    rw [show s.incoming = _ from hstill.incoming]
    exact .whole (Conveys.unopened .nothing hstill.unopened)

/-- What the user has read in a run, and after it what can still be read, is the data that the deeds of
the connection convey, in order; this stays so when the connection fails or is closed.  Only a record of data
that fails the connection, because it comes inside of a handshake message, is left out. -/
theorem received_read (h : Connection.start config time random = .ok c) (calls : List Call) :
    c.Balanced (c.run calls) (c.given calls ++ (c.run calls).session.incoming.toBytes) := by
  obtain ⟨o, hello, hstart, -⟩ := start_starts h
  induction calls using List.reverseRecOn with
  | nil => exact start_balanced h
  | append_singleton calls call ih =>
    rw [run_append, given_concat]
    exact call_balanced hstart (moment_run h calls) call ih

/-- The user reads a part of what the server writes after the handshake. -/
theorem received_read_closed : ∃ c wire data calls,
    Connection.start .acquainted 0 (.seeded [] 0 none) = .ok c ∧
    calls = Call.acquaint ++ [.readTls { deliveries := [.data (Record.encode wire)] }, .process,
      .readTls { deliveries := [.data (Record.encode data)] }, .process, .read 2] ∧
    c.given calls = [7, 8] ∧ (c.run calls).session.incoming.toBytes = [9] ∧
    c.Balanced (c.run calls) (c.given calls ++ (c.run calls).session.incoming.toBytes) := by
  obtain ⟨c, secrets, t, p, hc, hlistens, hearly, hincoming, -, hroom⟩ := run_acquainted
  obtain ⟨wire, q, hdone, hkept⟩ := hlistens.completes (n := 100) (by decide) (by rw [hearly]; exact hroom)
  have hlength : ([7, 8, 9] : Bytes).length ≤ Record.maxFragment := by decide
  obtain ⟨data, q', -, hdata⟩ := hdone.receives (by decide) hlength
  rw [hkept, hincoming] at hdata
  set front := Call.acquaint ++ [.readTls { deliveries := [.data (Record.encode wire)] }, .process]
    ++ [.readTls { deliveries := [.data (Record.encode data)] }, .process] with hfront
  have hrun : (c.run front).session.incoming = ({} : ByteQueue).push [7, 8, 9] := by
    rw [hfront, run_append, run_append]
    exact hdata
  have hgives : (c.run front).gives (.read 2) = [7, 8] := by
    unfold gives Connection.read Session.read
    rw [hrun]
    rfl
  set calls : List Call := front ++ [.read 2] with hcalls
  have hgiven : c.given calls = [7, 8] := by
    rw [hcalls, given_concat, hgives]
    rfl
  have hrest : (c.run calls).session.incoming.toBytes = [9] := by
    rw [hcalls, run_append]
    show ((c.run front).session.incoming.read 2).2.toBytes = [9]
    rw [hrun]
    rfl
  exact ⟨c, wire, data, calls, hc, by simp [hcalls, hfront], hgiven, hrest, received_read hc calls⟩

end Connection

end TlsClient
